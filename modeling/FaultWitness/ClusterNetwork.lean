/-
**Network policies of a cluster.**

What the orchestrator makes of network policies: a policy selects pods of its own namespace by
their labels, and the policies that select a pod add up.  An egress rule names peers, by the labels
of namespaces and pods or by blocks of addresses; a rule that names none admits all destinations,
and so does an empty selector among its labels.

Main definitions:
* `ClusterNetwork.Selector`, `ClusterNetwork.Peer`, `ClusterNetwork.NetworkPolicy` - the objects
* `ClusterNetwork.Cluster` - pods and the labels of namespaces
* `ClusterNetwork.NetworkPolicy.selects`, `ClusterNetwork.NetworkPolicy.admits` - their meaning

Main results:
* `ClusterNetwork.Peer.not_admits_of_named` - a peer that names another namespace admits nothing
* `ClusterNetwork.NetworkPolicy.not_admits_of_closed` - nor does a policy without egress rules
-/
import Mathlib.Data.List.Basic
import Mathlib.Tactic.Common
import Mathlib.Algebra.Group.Nat.Defs

set_option autoImplicit false

namespace ClusterNetwork

/-! ### Objects -/

/-- A field of a document: missing, given as null, or given. -/
inductive Setting (α : Type)
  | absent
  | null
  | given (value : α)
deriving DecidableEq, Repr

/-- The value, for a reader to whom null is as good as missing. -/
def Setting.toOption {α : Type} : Setting α → Option α
  | .given value => some value
  | _ => none

def Setting.isPresent {α : Type} : Setting α → Bool
  | .absent => false
  | _ => true

/-- The labels of a pod or a namespace. -/
abbrev Labels := List (String × String)

structure Expression where
  key : String
  operator : String
  values : List String := []
deriving DecidableEq, Repr

structure Selector where
  matchLabels : Setting Labels := .absent
  matchExpressions : Setting (List Expression) := .absent
deriving DecidableEq, Repr

structure IpBlock where
  cidr : Option String
  except : Setting (List String) := .absent
deriving DecidableEq, Repr

structure Peer where
  namespaceSelector : Setting Selector := .absent
  podSelector : Setting Selector := .absent
  ipBlock : Setting IpBlock := .absent
deriving DecidableEq, Repr

/-- A port of a rule; named ports and ranges have no number. -/
structure Port where
  protocol : Option String
  number : Option ℕ
  other : List (String × String) := []
deriving DecidableEq, Repr

structure EgressRule where
  toPeers : Setting (List Peer) := .absent
  ports : Setting (List Port) := .absent
deriving DecidableEq, Repr

structure IngressRule where
  fromPeers : Setting (List Peer) := .absent
  ports : Setting (List Port) := .absent
deriving DecidableEq, Repr

structure PolicySpec where
  podSelector : Setting Selector := .absent
  policyTypes : Setting (List String) := .absent
  ingress : Setting (List IngressRule) := .absent
  egress : Setting (List EgressRule) := .absent
deriving DecidableEq, Repr

structure Metadata where
  name : String
  «namespace» : Option String := none
deriving DecidableEq, Repr

structure NetworkPolicy where
  metadata : Metadata
  spec : Setting PolicySpec
deriving DecidableEq, Repr

/-! ### The cluster -/

structure Pod where
  «namespace» : String
  labels : Labels
  /-- The number of its address. -/
  address : ℕ
deriving DecidableEq, Repr

/-- The label under which every namespace has its own name. -/
def nameLabel : String := "kubernetes.io/metadata.name"

structure Cluster where
  pods : List Pod
  labels : String → Labels
  named : ∀ name value, (nameLabel, value) ∈ labels name ↔ value = name

/-! ### Selectors -/

def Expression.holds (e : Expression) (labels : Labels) : Bool :=
  match e.operator with
  | "In" => e.values.any fun v => (e.key, v) ∈ labels
  | "NotIn" => !e.values.any fun v => (e.key, v) ∈ labels
  | "Exists" => labels.any fun l => l.1 = e.key
  | "DoesNotExist" => !labels.any fun l => l.1 = e.key
  | _ => false

/-- Every label and every expression holds; a selector without any holds of everything. -/
def Selector.holds (s : Selector) (labels : Labels) : Bool :=
  (s.matchLabels.toOption.getD []).all (fun l => l ∈ labels) &&
    (s.matchExpressions.toOption.getD []).all fun e => e.holds labels

/-! ### Addresses -/

/-- The number written in decimal digits. -/
def readNumber (digits : List Char) : Option ℕ :=
  if digits ≠ [] ∧ digits.all Char.isDigit then
    some (digits.foldl (fun n d => 10 * n + (d.toNat - '0'.toNat)) 0)
  else none

/-- The number of an address in dotted form. -/
def addressNumber (text : List Char) : Option ℕ :=
  match (text.splitOn '.').map readNumber with
  | [some a, some b, some c, some d] =>
    if a < 256 ∧ b < 256 ∧ c < 256 ∧ d < 256 then some (((a * 256 + b) * 256 + c) * 256 + d) else none
  | _ => none

/-- Whether the address is in the block, written as an address and the length of its prefix. -/
def inCidr (cidr : String) (address : ℕ) : Bool :=
  match cidr.toList.splitOn '/' with
  | [base, length] =>
    match addressNumber base, readNumber length with
    | some base, some length =>
      length ≤ 32 && base / 2 ^ (32 - length) = address / 2 ^ (32 - length)
    | _, _ => false
  | _ => false

/-- An address within a block and one beside it. -/
example : inCidr "172.16.0.0/12" 0xac1fffff = true ∧ inCidr "172.16.0.0/12" 0xac200000 = false := by
  decide +kernel

def IpBlock.contains (b : IpBlock) (address : ℕ) : Bool :=
  (b.cidr.any fun cidr => inCidr cidr address) &&
    !(b.except.toOption.getD []).any fun cidr => inCidr cidr address

/-! ### Policies -/

variable (cluster : Cluster)

/-- Whether a peer of a rule admits traffic to the pod.  A peer is a block of addresses, or it has
selectors; without one for namespaces it means the policy's own. -/
def Peer.admits (p : Peer) (ownNamespace : String) (pod : Pod) : Bool :=
  match p.ipBlock.toOption, p.namespaceSelector.toOption, p.podSelector.toOption with
  | some block, none, none => block.contains pod.address
  | none, some inNamespace, none => inNamespace.holds (cluster.labels pod.namespace)
  | none, some inNamespace, some ofPods =>
    inNamespace.holds (cluster.labels pod.namespace) && ofPods.holds pod.labels
  | none, none, some ofPods => pod.namespace = ownNamespace && ofPods.holds pod.labels
  | _, _, _ => false

/-- A rule without peers admits all destinations. -/
def EgressRule.admits (r : EgressRule) (ownNamespace : String) (pod : Pod) : Bool :=
  match r.toPeers.toOption.getD [] with
  | [] => true
  | peers => peers.any fun p => p.admits cluster ownNamespace pod

def NetworkPolicy.ownNamespace (p : NetworkPolicy) : String :=
  p.metadata.namespace.getD "default"

/-- The egress rules that are in force: a policy that names no types has those of its rules. -/
def PolicySpec.egressRules (s : PolicySpec) : List EgressRule :=
  match s.policyTypes.toOption.getD [] with
  | [] => s.egress.toOption.getD []
  | types => if "Egress" ∈ types then s.egress.toOption.getD [] else []

def NetworkPolicy.selects (p : NetworkPolicy) (pod : Pod) : Bool :=
  match p.spec.toOption with
  | none => false
  | some spec =>
    pod.namespace = p.ownNamespace &&
      (spec.podSelector.toOption.getD {}).holds pod.labels

/-- Whether the policy has an egress rule that admits traffic to the pod. -/
def NetworkPolicy.admits (p : NetworkPolicy) (pod : Pod) : Bool :=
  match p.spec.toOption with
  | none => false
  | some spec => spec.egressRules.any fun r => r.admits cluster p.ownNamespace pod

/-! ### What admits nothing -/

variable {cluster}

/-- The namespace that the selector of a peer names, as a label. -/
def Peer.namedNamespace (p : Peer) : Option String :=
  (p.namespaceSelector.toOption.bind fun s => s.matchLabels.toOption).bind fun labels =>
    labels.lookup nameLabel

theorem mem_of_lookup {labels : Labels} {key value : String}
    (h : labels.lookup key = some value) : (key, value) ∈ labels := by
  induction labels with
  | nil => cases h
  | cons l labels ih =>
    obtain ⟨k, v⟩ := l
    by_cases hk : key = k
    · subst hk
      rw [List.lookup_cons_self] at h
      cases h
      exact List.mem_cons_self
    · rw [List.lookup_cons, beq_false_of_ne hk] at h
      exact List.mem_cons_of_mem _ (ih h)

theorem Peer.not_admits_of_named {p : Peer} {name ownNamespace : String} {pod : Pod}
    (h : p.namedNamespace = some name) (hne : name ≠ pod.namespace) :
    p.admits cluster ownNamespace pod = false := by
  obtain ⟨labels, hlabels, hlookup⟩ := Option.bind_eq_some_iff.1 h
  obtain ⟨selector, hselector, hmatch⟩ := Option.bind_eq_some_iff.1 hlabels
  have hfails : selector.holds (cluster.labels pod.namespace) = false := by
    have hnot : (nameLabel, name) ∉ cluster.labels pod.namespace :=
      fun hmem => hne ((cluster.named _ _).1 hmem)
    have hall : labels.all (fun l => decide (l ∈ cluster.labels pod.namespace)) = false := by
      rw [List.all_eq_false]
      exact ⟨_, mem_of_lookup hlookup, by simpa using hnot⟩
    rw [Selector.holds, hmatch, Option.getD_some, hall, Bool.false_and]
  unfold Peer.admits
  rw [hselector]
  cases p.ipBlock.toOption <;> cases p.podSelector.toOption <;> simp [hfails]

theorem NetworkPolicy.not_admits_of_closed {p : NetworkPolicy} {spec : PolicySpec} {pod : Pod}
    (hspec : p.spec = .given spec) (h : spec.egress = .absent) : p.admits cluster pod = false := by
  have hrules : spec.egressRules = [] := by
    rw [PolicySpec.egressRules, h]
    cases spec.policyTypes.toOption.getD [] with
    | nil => rfl
    | cons type types => simp [Setting.toOption]
  rw [NetworkPolicy.admits, hspec]
  simp only [Setting.toOption, hrules, List.any_nil]

end ClusterNetwork
