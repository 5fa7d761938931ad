/-
**Provisioning the probes.**

The function `provision` of `deploy/g02/gate_probe.py` with what it keeps in three stores: for every
principal a secret of Kubernetes, a user of the object store with a policy, and a role of PostgreSQL.  A
call computes its commands from the secrets that it finds, and runs one after the other; the process may
be stopped between any two of them.

A secret that is bound to other semantics is replaced, and before that its user and its role are disabled.
The role is created by the last of these commands only, so that a stopped call leaves secrets without it.

Infrastructure is available: commands fail only for what is in the stores.  The tokens are an argument of
a call.

Main definitions:

* `Provisioning.Command` — the remote commands, with what they do and when they fail;
* `Provisioning.provision` — the commands of a call;
* `Provisioning.step` — a call of which the first commands are run;
* `Provisioning.Provisioned` — what a call is to leave.

Main results:

* `Provisioning.named_reachable` — names of users and roles in the secrets after any calls;
* `Provisioning.provisioned_iff` — **a call succeeds and leaves what it promises exactly if the role of
  every secret exists that it replaces**.
-/

import FaultWitness.Runs
import FaultWitness.Python

set_option autoImplicit false

namespace Provisioning

open Python Runs

/-! ### Stores -/

inductive Principal
  | scenarioController
  | baselineAgent
  | sealedEvaluator
  | ordinaryDeveloper
deriving DecidableEq

def Principal.value : Principal → String
  | .scenarioController => "scenario-controller"
  | .baselineAgent => "baseline-agent"
  | .sealedEvaluator => "sealed-evaluator"
  | .ordinaryDeveloper => "ordinary-developer"

def PRINCIPALS : List Principal :=
  [.scenarioController, .baselineAgent, .sealedEvaluator, .ordinaryDeveloper]

/-- A secret with its six members. -/
structure Secret where
  access : String
  secretKey : String
  role : String
  password : String
  environmentFingerprint : String
  planDigest : String
deriving DecidableEq

/-- A user of the object store. -/
structure ObjectUser where
  secretKey : String
  enabled : Bool
  policies : List String
deriving DecidableEq

/-- A role of PostgreSQL. -/
structure Role where
  login : Bool
  password : Option String
deriving DecidableEq

structure State where
  secrets : Principal → Option Secret := fun _ => none
  users : AList (fun _ : String => ObjectUser) := ∅
  policies : AList (fun _ : String => Json) := ∅
  roles : AList (fun _ : String => Role) := ∅

/-! ### Commands -/

inductive Command
  /-- A command on manifests, labels, pods, buckets or sentinels. -/
  | other
  /-- `mc admin user disable … || true`. -/
  | disableUser (access : String)
  /-- `ALTER ROLE … NOLOGIN PASSWORD NULL`. -/
  | disableRole (role : String)
  | deleteSecret (principal : Principal)
  | createSecret (principal : Principal) (secret : Secret)
  /-- `mc admin user remove … || true`. -/
  | removeUser (access : String)
  /-- `mc admin policy remove … || true`. -/
  | removePolicy (name : String)
  | createPolicy (name : String) (document : Json)
  | addUser (access secretKey : String)
  | attachPolicy (name access : String)
  /-- One transaction that creates the roles that are missing and sets their passwords. -/
  | setRoles (logins : List (String × String))

def State.putUser (st : State) (access : String) (user : ObjectUser) : State :=
  { st with users := st.users.insert access user }

/-- The user after a change, if it exists. -/
def State.changeUser (st : State) (access : String) (change : ObjectUser → ObjectUser) : State :=
  match st.users.lookup access with
  | none => st
  | some user => st.putUser access (change user)

def State.setSecret (st : State) (principal : Principal) (secret : Option Secret) : State :=
  { st with secrets := Function.update st.secrets principal secret }

def State.putRole (st : State) (role : String) (value : Role) : State :=
  { st with roles := st.roles.insert role value }

/-- Sets the passwords of roles, which it creates where they are missing. -/
def State.setRoles (st : State) (logins : List (String × String)) : State :=
  logins.foldl (fun st login => st.putRole login.1 ⟨true, some login.2⟩) st

/-- The policy belongs to a user. -/
def State.attached (st : State) (name : String) : Bool :=
  st.users.entries.any fun e => name ∈ e.2.policies

/-- What a command does; `none` is its failure. -/
def Command.apply (st : State) : Command → Option State
  | .other => some st
  | .disableUser access => some (st.changeUser access fun user => { user with enabled := false })
  | .disableRole role =>
    if (st.roles.lookup role).isSome then
      some (st.putRole role ⟨false, none⟩)
    else none
  | .deleteSecret principal =>
    if (st.secrets principal).isSome then
      some (st.setSecret principal none)
    else none
  | .createSecret principal secret =>
    if (st.secrets principal).isSome then none
    else some (st.setSecret principal (some secret))
  | .removeUser access => some { st with users := st.users.erase access }
  | .removePolicy name =>
    some (if st.attached name then st else { st with policies := st.policies.erase name })
  | .createPolicy name document => some { st with policies := st.policies.insert name document }
  | .addUser access secretKey =>
    some (st.putUser access
      ⟨secretKey, true, ((st.users.lookup access).map ObjectUser.policies).getD []⟩)
  | .attachPolicy name access =>
    match st.policies.lookup name, st.users.lookup access with
    | some _, some user =>
      if name ∈ user.policies then none
      else some (st.putUser access { user with policies := name :: user.policies })
    | _, _ => none
  | .setRoles logins => some (st.setRoles logins)

/-- The commands one after the other, up to the first that fails. -/
def runCommands : List Command → State → Bool × State
  | [], st => (true, st)
  | c :: cs, st =>
    match c.apply st with
    | none => (false, st)
    | some st => runCommands cs st

/-! ### A call -/

/-- A text that the pattern `DIGEST` matches. -/
def isDigest (text : String) : Bool :=
  text.toList.length = 64 && text.toList.all fun c => ('0' ≤ c && c ≤ '9') || ('a' ≤ c && c ≤ 'f')

/-- What a call reads of its request after the checks at its start: `validate_request`, and the comparison
of the plan digest with the one computed of the plan. -/
structure Request where
  environmentFingerprint : String
  planDigest : String
  fingerprint_isDigest : isDigest environmentFingerprint = true
  plan_isDigest : isDigest planDigest = true

/-- The tokens for a principal. -/
structure Draw where
  secretKey : String
  password : String

def roleOf (principal : Principal) : String :=
  "fw_g02_" ++ String.ofList (principal.value.toList.map fun c => if c = '-' then '_' else c)

/-- The first letters of the name without its dashes. -/
def shortName (principal : Principal) : String :=
  String.ofList ((principal.value.toList.filter (· ≠ '-')).take 8)

def accessOf (principal : Principal) (environmentFingerprint : String) : String :=
  "fwg02" ++ shortName principal ++ String.ofList (environmentFingerprint.toList.take 6)

def policyName (principal : Principal) (request : Request) : String :=
  "g02-" ++ principal.value ++ "-" ++ String.ofList (request.environmentFingerprint.toList.take 12)

/-- The rules of a principal: an action and the resources below the bucket. -/
def policyRules : Principal → List (String × String)
  | .scenarioController => [("s3:GetObject", "/g02/scenarios/*"), ("s3:PutObject", "/g02/trials/*")]
  | .baselineAgent => [("s3:PutObject", "/g02/trials/baseline/*")]
  | .sealedEvaluator =>
    [("s3:GetObject", "/g02/trials/*"), ("s3:GetObject", "/g02/ground-truth/*"),
      ("s3:GetObject", "/g02/locked-tests/*"), ("s3:PutObject", "/g02/evidence/*")]
  | .ordinaryDeveloper => []

def policyDocument (principal : Principal) : Json :=
  .obj [("Version", .str "2012-10-17"), ("Statement", .arr ((policyRules principal).map fun rule =>
    .obj [("Effect", .str "Allow"), ("Action", .arr [.str rule.1]),
      ("Resource", .str ("arn:aws:s3:::faultwitness-eval" ++ rule.2))]))]

variable (request : Request) (draw : Principal → Draw)

/-- The secret is bound to the semantics of the request. -/
def Secret.isCurrent (secret : Secret) : Bool :=
  secret.environmentFingerprint = request.environmentFingerprint && secret.planDigest = request.planDigest

def newSecret (principal : Principal) : Secret where
  access := accessOf principal request.environmentFingerprint
  secretKey := (draw principal).secretKey
  role := roleOf principal
  password := (draw principal).password
  environmentFingerprint := request.environmentFingerprint
  planDigest := request.planDigest

/-- The commands of `ensure_principal_secret`, and the secret that it reads in the end.  The secret of a
principal is changed by no command for another one, so that it is the one at the start of the call. -/
def ensurePrincipalSecret (st : State) (principal : Principal) : List Command × Secret :=
  match st.secrets principal with
  | none => ([.createSecret principal (newSecret request draw principal)], newSecret request draw principal)
  | some secret =>
    if secret.isCurrent request then ([], secret)
    else
      ([.disableUser secret.access, .disableRole secret.role, .deleteSecret principal,
        .createSecret principal (newSecret request draw principal)], newSecret request draw principal)

/-- The commands of `provision_minio` for a principal. -/
def provisionUser (principal : Principal) (secret : Secret) : List Command :=
  let policy := policyName principal request
  [.removeUser secret.access] ++
    (if policyRules principal ≠ [] then
      [.removePolicy policy, .createPolicy policy (policyDocument principal)] else []) ++
    [.addUser secret.access secret.secretKey] ++
    if policyRules principal ≠ [] then [.attachPolicy policy secret.access] else []

/-- The commands of a call, of which some number does not touch the stores before and after the others. -/
def provision (before after : ℕ) (st : State) : List Command :=
  let secrets := PRINCIPALS.map fun p => (p, ensurePrincipalSecret request draw st p)
  List.replicate before .other ++ secrets.flatMap (fun e => e.2.1) ++ [.other] ++
    secrets.flatMap (fun e => provisionUser request e.1 e.2.2) ++ List.replicate 5 .other ++
    [.setRoles (secrets.map fun e => (roleOf e.1, e.2.2.password))] ++ List.replicate after .other

/-- A call: its request, its tokens, the numbers of other commands, and how many commands are run. -/
structure Call where
  request : Request
  draw : Principal → Draw
  before : ℕ
  after : ℕ
  made : ℕ

def step (st : State) (call : Call) : Option State :=
  some (runCommands ((provision call.request call.draw call.before call.after st).take call.made) st).2

/-- What a call is to leave for every principal: a secret with the semantics of the request, and a user and
a role that exist with its credentials. -/
def Provisioned (st : State) : Prop :=
  ∀ principal, ∃ secret, st.secrets principal = some secret ∧ secret.isCurrent request = true ∧
    (∃ policies, st.users.lookup secret.access = some ⟨secret.secretKey, true, policies⟩) ∧
    st.roles.lookup secret.role = some ⟨true, some secret.password⟩

/-- The roles of the secrets exist that a call replaces. -/
def RolesExist (st : State) : Prop :=
  ∀ principal secret, st.secrets principal = some secret → secret.isCurrent request = false →
    (st.roles.lookup secret.role).isSome = true

/-! ### Running commands -/

variable {st : State} {c : Command} {cs : List Command} {st' : State}

theorem runCommands_cons (h : c.apply st = some st') (cs : List Command) :
    runCommands (c :: cs) st = runCommands cs st' := by
  rw [runCommands, h]

theorem runCommands_append (h : runCommands cs st = (true, st')) (ds : List Command) :
    runCommands (cs ++ ds) st = runCommands ds st' := by
  induction cs generalizing st with
  | nil =>
    cases h
    rfl
  | cons c cs ih =>
    rw [runCommands] at h
    rw [List.cons_append, runCommands]
    cases hc : c.apply st with
    | none =>
      rw [hc] at h
      cases h
    | some st₁ =>
      rw [hc] at h
      exact ih h

theorem runCommands_append_of_failed (h : (runCommands cs st).1 = false) (ds : List Command) :
    (runCommands (cs ++ ds) st).1 = false := by
  induction cs generalizing st with
  | nil => cases h
  | cons c cs ih =>
    rw [runCommands] at h
    rw [List.cons_append, runCommands]
    cases hc : c.apply st with
    | none => rfl
    | some st₁ =>
      rw [hc] at h
      exact ih h

theorem runCommands_replicate_other (n : ℕ) (st : State) :
    runCommands (List.replicate n .other) st = (true, st) := by
  induction n with
  | zero => rfl
  | succ n ih => exact ih

theorem runCommands_invariant {I : State → Prop} (hst : I st)
    (h : ∀ c ∈ cs, ∀ st st', I st → c.apply st = some st' → I st') : I (runCommands cs st).2 := by
  induction cs generalizing st with
  | nil => exact hst
  | cons c cs ih =>
    rw [runCommands]
    cases hc : c.apply st with
    | none => exact hst
    | some st₁ =>
      exact ih (h c List.mem_cons_self st st₁ hst hc)
        fun c' hc' => h c' (List.mem_cons_of_mem _ hc')

/-! ### Names in the secrets -/

/-- The names of user and role in a secret are those of its principal. -/
def Secret.NamedFor (principal : Principal) (secret : Secret) : Prop :=
  secret.access = accessOf principal secret.environmentFingerprint ∧ secret.role = roleOf principal

def Named (st : State) : Prop :=
  ∀ principal secret, st.secrets principal = some secret → secret.NamedFor principal

/-- A command that creates a secret gives it the names of its principal. -/
def Command.Names : Command → Prop
  | .createSecret principal secret => secret.NamedFor principal
  | _ => True

variable {request} {draw}

variable {principal : Principal} {secret : Secret}

theorem newSecret_named (principal : Principal) : (newSecret request draw principal).NamedFor principal :=
  ⟨rfl, rfl⟩

@[simp] theorem secrets_putUser (st : State) (access : String) (user : ObjectUser) :
    (st.putUser access user).secrets = st.secrets := rfl

@[simp] theorem secrets_putRole (st : State) (role : String) (value : Role) :
    (st.putRole role value).secrets = st.secrets := rfl

@[simp] theorem secrets_setSecret (st : State) (principal : Principal) (secret : Option Secret) :
    (st.setSecret principal secret).secrets = Function.update st.secrets principal secret := rfl

@[simp] theorem roles_putUser (st : State) (access : String) (user : ObjectUser) :
    (st.putUser access user).roles = st.roles := rfl

@[simp] theorem roles_putRole (st : State) (role : String) (value : Role) :
    (st.putRole role value).roles = st.roles.insert role value := rfl

@[simp] theorem roles_setSecret (st : State) (principal : Principal) (secret : Option Secret) :
    (st.setSecret principal secret).roles = st.roles := rfl

theorem secrets_setRoles (logins : List (String × String)) (st : State) :
    (st.setRoles logins).secrets = st.secrets := by
  induction logins generalizing st with
  | nil => rfl
  | cons login logins ih => exact ih (st.putRole login.1 ⟨true, some login.2⟩)

theorem secrets_changeUser (st : State) (access : String) (change : ObjectUser → ObjectUser) :
    (st.changeUser access change).secrets = st.secrets := by
  unfold State.changeUser
  split
  · rfl
  · rfl

theorem named_apply (hc : c.Names) (h : Named st) (happly : c.apply st = some st') : Named st' := by
  have hsame : st'.secrets = st.secrets → Named st' := by
    intro hsecrets principal secret hsecret
    exact h principal secret (hsecrets ▸ hsecret)
  cases c with
  | other =>
    obtain rfl := Option.some.inj happly
    exact h
  | disableUser access =>
    obtain rfl := Option.some.inj happly
    exact hsame (secrets_changeUser _ _ _)
  | disableRole role =>
    rw [Command.apply] at happly
    split at happly
    · obtain rfl := Option.some.inj happly
      exact hsame rfl
    · cases happly
  | deleteSecret principal =>
    rw [Command.apply] at happly
    split at happly
    · obtain rfl := Option.some.inj happly
      intro other secret hsecret
      by_cases hother : other = principal
      · rw [hother, secrets_setSecret, Function.update_self] at hsecret
        cases hsecret
      · rw [secrets_setSecret, Function.update_of_ne hother] at hsecret
        exact h other secret hsecret
    · cases happly
  | createSecret principal secret =>
    rw [Command.apply] at happly
    split at happly
    · cases happly
    · obtain rfl := Option.some.inj happly
      intro other secret' hsecret
      by_cases hother : other = principal
      · rw [hother, secrets_setSecret, Function.update_self] at hsecret
        obtain rfl := Option.some.inj hsecret
        rw [hother]
        exact hc
      · rw [secrets_setSecret, Function.update_of_ne hother] at hsecret
        exact h other secret' hsecret
  | removeUser access =>
    obtain rfl := Option.some.inj happly
    exact hsame rfl
  | removePolicy name =>
    obtain rfl := Option.some.inj happly
    refine hsame ?_
    split
    · rfl
    · rfl
  | createPolicy name document =>
    obtain rfl := Option.some.inj happly
    exact hsame rfl
  | addUser access secretKey =>
    obtain rfl := Option.some.inj happly
    exact hsame rfl
  | attachPolicy name access =>
    rw [Command.apply] at happly
    split at happly
    · split at happly
      · cases happly
      · obtain rfl := Option.some.inj happly
        exact hsame rfl
    · cases happly
  | setRoles logins =>
    obtain rfl := Option.some.inj happly
    exact hsame (secrets_setRoles logins st)

theorem names_ensurePrincipalSecret (h : c ∈ (ensurePrincipalSecret request draw st principal).1) :
    c.Names := by
  unfold ensurePrincipalSecret at h
  split at h
  · obtain rfl := List.mem_singleton.1 h
    exact newSecret_named principal
  · split at h
    · cases h
    · simp only [List.mem_cons, List.not_mem_nil, or_false] at h
      rcases h with rfl | rfl | rfl | rfl
      · trivial
      · trivial
      · trivial
      · exact newSecret_named principal

theorem names_provisionUser (h : c ∈ provisionUser request principal secret) : c.Names := by
  simp only [provisionUser, List.mem_append, List.mem_singleton] at h
  rcases h with ((rfl | h) | rfl) | h
  · trivial
  · split at h
    · rcases List.mem_pair.1 h with rfl | rfl
      · trivial
      · trivial
    · cases h
  · trivial
  · split at h
    · obtain rfl := List.mem_singleton.1 h
      trivial
    · cases h

theorem names_provision {before after : ℕ} (h : c ∈ provision request draw before after st) :
    c.Names := by
  simp only [provision, List.mem_append, List.mem_flatMap, List.mem_map, List.mem_singleton] at h
  rcases h with (((((h | ⟨e, ⟨p, -, rfl⟩, h⟩) | rfl) | ⟨e, ⟨p, -, rfl⟩, h⟩) | h) | rfl) | h
  · rw [List.eq_of_mem_replicate h]
    trivial
  · exact names_ensurePrincipalSecret h
  · trivial
  · exact names_provisionUser h
  · rw [List.eq_of_mem_replicate h]
    trivial
  · trivial
  · rw [List.eq_of_mem_replicate h]
    trivial

/-- **Whatever calls were made and wherever they were stopped**, the secrets hold the names of their
principals. -/
theorem named_reachable (h : Reachable step {} st) : Named st := by
  refine h.invariant ?_ ?_
  · intro principal secret hnone
    cases hnone
  · intro s call s' hs _ hstep
    obtain rfl := Option.some.inj hstep
    refine runCommands_invariant hs ?_
    intro c hc st st' hst happly
    exact named_apply (names_provision (List.mem_of_mem_take hc)) hst happly

/-! ### The secrets of a call -/

/-- The role exists of the secret that a call replaces for a principal. -/
def RoleExists (request : Request) (st : State) (principal : Principal) : Prop :=
  ∀ secret, st.secrets principal = some secret → secret.isCurrent request = false →
    (st.roles.lookup secret.role).isSome = true

/-- The states have the same roles, by their names. -/
def SameRoles (st st' : State) : Prop :=
  ∀ role, (st'.roles.lookup role).isSome = (st.roles.lookup role).isSome

theorem roles_changeUser (st : State) (access : String) (change : ObjectUser → ObjectUser) :
    (st.changeUser access change).roles = st.roles := by
  unfold State.changeUser
  split
  · rfl
  · rfl

theorem isSome_insert_role {roles : AList (fun _ : String => Role)} {role : String} {value : Role}
    (h : (roles.lookup role).isSome = true) (other : String) :
    ((roles.insert role value).lookup other).isSome = (roles.lookup other).isSome := by
  by_cases hother : other = role
  · rw [hother, AList.lookup_insert, h, Option.isSome_some]
  · rw [AList.lookup_insert_ne hother]

variable (request) (draw)

variable {start : State} {principals : List Principal}

theorem ensure_of_none (h : st.secrets principal = none) :
    ensurePrincipalSecret request draw st principal =
      ([.createSecret principal (newSecret request draw principal)],
        newSecret request draw principal) := by
  rw [ensurePrincipalSecret, h]

theorem ensure_of_current (h : st.secrets principal = some secret)
    (hcurrent : secret.isCurrent request = true) :
    ensurePrincipalSecret request draw st principal = ([], secret) := by
  rw [ensurePrincipalSecret, h]
  exact if_pos hcurrent

theorem ensure_of_stale (h : st.secrets principal = some secret)
    (hcurrent : secret.isCurrent request = false) :
    ensurePrincipalSecret request draw st principal =
      ([.disableUser secret.access, .disableRole secret.role, .deleteSecret principal,
        .createSecret principal (newSecret request draw principal)],
        newSecret request draw principal) := by
  rw [ensurePrincipalSecret, h]
  exact if_neg (Bool.eq_false_iff.1 hcurrent)

/-- What the commands for one principal do to its secret: they create or keep the one that is read, if the
role exists of the one that they replace. -/
theorem run_ensurePrincipalSecret (hsecret : st.secrets principal = start.secrets principal)
    (hroles : SameRoles start st) (hexists : RoleExists request start principal) :
    ∃ st', runCommands (ensurePrincipalSecret request draw start principal).1 st = (true, st') ∧
      st'.secrets = Function.update st.secrets principal
        (some (ensurePrincipalSecret request draw start principal).2) ∧ SameRoles start st' := by
  cases hstart : start.secrets principal with
  | none =>
    rw [hstart] at hsecret
    rw [ensure_of_none request draw hstart]
    refine ⟨st.setSecret principal (some (newSecret request draw principal)), ?_, rfl, hroles⟩
    simp only [runCommands, Command.apply, hsecret, Option.isSome_none, Bool.false_eq_true, if_false]
  | some secret =>
    rw [hstart] at hsecret
    cases hcurrent : secret.isCurrent request with
    | true =>
      rw [ensure_of_current request draw hstart hcurrent]
      refine ⟨st, rfl, ?_, hroles⟩
      rw [← hsecret, Function.update_eq_self]
    | false =>
      rw [ensure_of_stale request draw hstart hcurrent]
      have hrole : (st.roles.lookup secret.role).isSome = true :=
        (hroles _).trans (hexists secret hstart hcurrent)
      let disabled := (st.changeUser secret.access fun user => { user with enabled := false }).putRole
        secret.role ⟨false, none⟩
      refine ⟨(disabled.setSecret principal none).setSecret principal
        (some (newSecret request draw principal)), ?_, ?_, ?_⟩
      · simp only [runCommands, Command.apply, roles_changeUser, hrole, if_true, secrets_putRole,
          secrets_changeUser, hsecret, Option.isSome_some, secrets_setSecret, Function.update_self,
          Option.isSome_none, Bool.false_eq_true, if_false, disabled]
      · simp only [secrets_setSecret, Function.update_idem, disabled, secrets_putRole,
          secrets_changeUser]
      · intro role
        simp only [disabled, roles_setSecret, roles_putRole, roles_changeUser]
        exact (isSome_insert_role hrole role).trans (hroles role)

theorem run_ensurePrincipalSecret_failed (hroles : SameRoles start st)
    (hmissing : ¬RoleExists request start principal) :
    (runCommands (ensurePrincipalSecret request draw start principal).1 st).1 = false := by
  simp only [RoleExists, not_forall, exists_prop, Bool.not_eq_true] at hmissing
  obtain ⟨secret, hsecret, hcurrent, hrole⟩ := hmissing
  rw [← hroles] at hrole
  simp only [ensure_of_stale request draw hsecret hcurrent, runCommands, Command.apply, roles_changeUser,
    hrole, Bool.false_eq_true, if_false]

/-- The same for some of the principals, one after the other. -/
theorem run_secrets (hnodup : principals.Nodup)
    (hsecrets : ∀ p ∈ principals, st.secrets p = start.secrets p) (hroles : SameRoles start st)
    (hexists : ∀ p ∈ principals, RoleExists request start p) :
    ∃ st', runCommands (principals.flatMap fun p =>
        (ensurePrincipalSecret request draw start p).1) st = (true, st') ∧
      (∀ p ∈ principals, st'.secrets p = some (ensurePrincipalSecret request draw start p).2) ∧
      (∀ p, p ∉ principals → st'.secrets p = st.secrets p) := by
  induction principals generalizing st with
  | nil => exact ⟨st, rfl, fun p hp => absurd hp List.not_mem_nil, fun _ _ => rfl⟩
  | cons p rest ih =>
    obtain ⟨hp, hnodup⟩ := List.nodup_cons.1 hnodup
    obtain ⟨st₁, hrun, hupdate, hroles₁⟩ := run_ensurePrincipalSecret request draw
      (hsecrets p List.mem_cons_self) hroles (hexists p List.mem_cons_self)
    have hrest : ∀ q ∈ rest, st₁.secrets q = start.secrets q := by
      intro q hq
      have hne : q ≠ p := fun heq => hp (heq ▸ hq)
      rw [hupdate, Function.update_of_ne hne]
      exact hsecrets q (List.mem_cons_of_mem _ hq)
    obtain ⟨st₂, hrun₂, hdone, hkept⟩ :=
      ih hnodup hrest hroles₁ fun q hq => hexists q (List.mem_cons_of_mem _ hq)
    refine ⟨st₂, ?_, ?_, ?_⟩
    · rw [List.flatMap_cons, runCommands_append hrun]
      exact hrun₂
    · intro q hq
      rcases List.mem_cons.1 hq with rfl | hq
      · rw [hkept _ hp, hupdate, Function.update_self]
      · exact hdone q hq
    · intro q hq
      rw [List.mem_cons, not_or] at hq
      rw [hkept q hq.2, hupdate, Function.update_of_ne hq.1]

/-- If a role is missing of a principal, the commands for the secrets fail. -/
theorem run_secrets_failed (hnodup : principals.Nodup)
    (hsecrets : ∀ p ∈ principals, st.secrets p = start.secrets p) (hroles : SameRoles start st)
    (hmissing : ¬∀ p ∈ principals, RoleExists request start p) :
    (runCommands (principals.flatMap fun p =>
      (ensurePrincipalSecret request draw start p).1) st).1 = false := by
  induction principals generalizing st with
  | nil => exact absurd (fun p hp => absurd hp List.not_mem_nil) hmissing
  | cons p rest ih =>
    obtain ⟨hp, hnodup⟩ := List.nodup_cons.1 hnodup
    rw [List.flatMap_cons]
    by_cases hfirst : RoleExists request start p
    · obtain ⟨st₁, hrun, hupdate, hroles₁⟩ := run_ensurePrincipalSecret request draw
        (hsecrets p List.mem_cons_self) hroles hfirst
      rw [runCommands_append hrun]
      refine ih hnodup ?_ hroles₁ ?_
      · intro q hq
        have hne : q ≠ p := fun heq => hp (heq ▸ hq)
        rw [hupdate, Function.update_of_ne hne]
        exact hsecrets q (List.mem_cons_of_mem _ hq)
      · intro hrest
        refine hmissing fun q hq => ?_
        rcases List.mem_cons.1 hq with rfl | hq
        · exact hfirst
        · exact hrest q hq
    · exact runCommands_append_of_failed (run_ensurePrincipalSecret_failed request draw hroles hfirst) _

/-! ### The users of a call -/

theorem apply_removePolicy (st : State) (name : String) :
    ∃ policies, Command.apply st (.removePolicy name) = some { st with policies } := by
  rw [Command.apply]
  split
  · exact ⟨st.policies, rfl⟩
  · exact ⟨_, rfl⟩

/-- The user that the commands for a principal leave: its policy is attached if it has rules. -/
def provisionedUser (request : Request) (principal : Principal) (secret : Secret) : ObjectUser where
  secretKey := secret.secretKey
  enabled := true
  policies := if policyRules principal = [] then [] else [policyName principal request]

/-- The commands for the user of one principal leave it with the credentials of the secret. -/
theorem run_provisionUser (principal : Principal) (secret : Secret) (st : State) :
    ∃ st', runCommands (provisionUser request principal secret) st = (true, st') ∧
      st'.secrets = st.secrets ∧ st'.roles = st.roles ∧
      st'.users.lookup secret.access = some (provisionedUser request principal secret) ∧
      ∀ access, access ≠ secret.access → st'.users.lookup access = st.users.lookup access := by
  let removed : State := { st with users := st.users.erase secret.access }
  let added : ObjectUser := ⟨secret.secretKey, true, []⟩
  have hremove : Command.apply st (.removeUser secret.access) = some removed := rfl
  have hadd (policies : AList fun _ : String => Json) :
      Command.apply { removed with policies } (.addUser secret.access secret.secretKey) =
        some (State.putUser { removed with policies } secret.access added) := by
    rw [Command.apply, AList.lookup_erase, Option.map_none, Option.getD_none]
  by_cases hrules : policyRules principal = []
  · refine ⟨removed.putUser secret.access added, ?_, rfl, rfl, ?_, ?_⟩
    · simp only [provisionUser, hrules, ne_eq, not_true, if_false, List.append_nil, List.cons_append,
        List.nil_append]
      rw [runCommands_cons hremove, runCommands_cons (hadd st.policies)]
      rfl
    · rw [provisionedUser, if_pos hrules]
      exact AList.lookup_insert _
    · intro access hne
      exact (AList.lookup_insert_ne hne).trans (AList.lookup_erase_ne hne)
  · let name := policyName principal request
    obtain ⟨policies, hpolicy⟩ := apply_removePolicy removed name
    let created := policies.insert name (policyDocument principal)
    have hcreate : Command.apply { removed with policies } (.createPolicy name (policyDocument principal)) =
        some { removed with policies := created } := rfl
    have hattach : Command.apply (State.putUser { removed with policies := created } secret.access added)
        (.attachPolicy name secret.access) =
          some (State.putUser (State.putUser { removed with policies := created } secret.access added)
            secret.access ⟨secret.secretKey, true, [name]⟩) := by
      have hlookup : (State.putUser { removed with policies := created } secret.access added).policies.lookup
          name = some (policyDocument principal) := AList.lookup_insert _
      have huser : (State.putUser { removed with policies := created } secret.access added).users.lookup
          secret.access = some added := AList.lookup_insert _
      rw [Command.apply, hlookup, huser]
      rfl
    refine ⟨State.putUser (State.putUser { removed with policies := created } secret.access added)
      secret.access ⟨secret.secretKey, true, [name]⟩, ?_, rfl, rfl, ?_, ?_⟩
    · simp only [provisionUser, hrules, ne_eq, not_false_eq_true, if_true, List.cons_append,
        List.nil_append]
      rw [runCommands_cons hremove, runCommands_cons hpolicy, runCommands_cons hcreate,
        runCommands_cons (hadd created), runCommands_cons hattach]
      rfl
    · rw [provisionedUser, if_neg hrules]
      exact AList.lookup_insert _
    · intro access hne
      exact (AList.lookup_insert_ne hne).trans
        ((AList.lookup_insert_ne hne).trans (AList.lookup_erase_ne hne))

/-- The same for some of the principals, whose users have different names. -/
theorem run_users {secrets : Principal → Secret} (hnodup : principals.Nodup)
    (hdistinct : ∀ p q, (secrets p).access = (secrets q).access → p = q) (st : State) :
    ∃ st', runCommands (principals.flatMap fun p => provisionUser request p (secrets p)) st = (true, st') ∧
      st'.secrets = st.secrets ∧ st'.roles = st.roles ∧
      (∀ p ∈ principals, st'.users.lookup (secrets p).access =
        some (provisionedUser request p (secrets p))) ∧
      ∀ access, (∀ p ∈ principals, access ≠ (secrets p).access) →
        st'.users.lookup access = st.users.lookup access := by
  induction principals generalizing st with
  | nil => exact ⟨st, rfl, rfl, rfl, fun p hp => absurd hp List.not_mem_nil, fun _ _ => rfl⟩
  | cons p rest ih =>
    obtain ⟨hp, hnodup⟩ := List.nodup_cons.1 hnodup
    obtain ⟨st₁, hrun, hsecrets, hroles, huser, hkept⟩ := run_provisionUser request p (secrets p) st
    obtain ⟨st₂, hrun₂, hsecrets₂, hroles₂, husers₂, hkept₂⟩ := ih hnodup st₁
    refine ⟨st₂, ?_, hsecrets₂.trans hsecrets, hroles₂.trans hroles, ?_, ?_⟩
    · rw [List.flatMap_cons, runCommands_append hrun]
      exact hrun₂
    · intro q hq
      rcases List.mem_cons.1 hq with rfl | hq
      · -- No later principal has its user.
        have hother : ∀ r ∈ rest, (secrets q).access ≠ (secrets r).access := by
          intro r hr heq
          exact hp (hdistinct q r heq ▸ hr)
        rw [hkept₂ _ hother, huser]
      · exact husers₂ q hq
    · intro access haccess
      rw [hkept₂ access fun r hr => haccess r (List.mem_cons_of_mem _ hr),
        hkept access (haccess p List.mem_cons_self)]

/-! ### The roles of a call -/

variable {p : Principal}

theorem roleOf_inj {q : Principal} (h : roleOf p = roleOf q) : p = q := by
  revert h
  cases p <;> cases q <;> decide

theorem users_setRoles (logins : List (String × String)) (st : State) :
    (st.setRoles logins).users = st.users := by
  induction logins generalizing st with
  | nil => rfl
  | cons login logins ih => exact ih (st.putRole login.1 ⟨true, some login.2⟩)

theorem lookup_setRoles_of_ne {logins : List (String × String)} {role : String}
    (h : ∀ login ∈ logins, role ≠ login.1) (st : State) :
    (st.setRoles logins).roles.lookup role = st.roles.lookup role := by
  induction logins generalizing st with
  | nil => rfl
  | cons login logins ih =>
    refine (ih (fun l hl => h l (List.mem_cons_of_mem _ hl)) _).trans ?_
    exact AList.lookup_insert_ne (h login List.mem_cons_self)

theorem lookup_setRoles (hnodup : principals.Nodup) (passwords : Principal → String) (st : State)
    (hp : p ∈ principals) :
    (st.setRoles (principals.map fun p => (roleOf p, passwords p))).roles.lookup (roleOf p) =
      some ⟨true, some (passwords p)⟩ := by
  induction principals generalizing st with
  | nil => exact absurd hp List.not_mem_nil
  | cons q rest ih =>
    obtain ⟨hq, hnodup⟩ := List.nodup_cons.1 hnodup
    rcases List.mem_cons.1 hp with rfl | hp
    · have hother : ∀ login ∈ rest.map (fun p => (roleOf p, passwords p)), roleOf p ≠ login.1 := by
        intro login hlogin heq
        obtain ⟨r, hr, rfl⟩ := List.mem_map.1 hlogin
        exact hq (roleOf_inj heq ▸ hr)
      refine (lookup_setRoles_of_ne hother _).trans ?_
      exact AList.lookup_insert _
    · exact ih hnodup _ hp

/-! ### Calls -/

theorem nodup_principals : PRINCIPALS.Nodup := by
  decide

theorem mem_principals (p : Principal) : p ∈ PRINCIPALS := by
  cases p <;> decide

variable {request} {draw}

theorem isCurrent_ensure (st : State) (p : Principal) :
    (ensurePrincipalSecret request draw st p).2.isCurrent request = true := by
  unfold ensurePrincipalSecret
  split
  · simp [Secret.isCurrent, newSecret]
  · split
    · assumption
    · simp [Secret.isCurrent, newSecret]

theorem fingerprint_of_isCurrent (h : secret.isCurrent request = true) :
    secret.environmentFingerprint = request.environmentFingerprint := by
  rw [Secret.isCurrent, Bool.and_eq_true, decide_eq_true_eq] at h
  exact h.1

theorem named_ensure (h : Named st) (p : Principal) :
    (ensurePrincipalSecret request draw st p).2.NamedFor p := by
  unfold ensurePrincipalSecret
  split
  · exact newSecret_named p
  · next secret hsecret =>
    split
    · exact h p secret hsecret
    · exact newSecret_named p

theorem shortName_inj {q : Principal} (h : shortName p = shortName q) : p = q := by
  revert h
  cases p <;> cases q <;> decide

theorem length_shortName (p : Principal) : (shortName p).toList.length = 8 := by
  cases p <;> decide

theorem accessOf_inj {q : Principal} {fingerprint : String}
    (h : accessOf p fingerprint = accessOf q fingerprint) : p = q := by
  have hlists := congrArg String.toList h
  simp only [accessOf, String.toList_append, List.append_assoc, String.toList_ofList,
    List.append_cancel_left_eq] at hlists
  have hnames := (List.append_inj hlists ((length_shortName p).trans (length_shortName q).symm)).1
  exact shortName_inj (String.toList_injective hnames)

/-- **A call run to its end** leaves what it promises if the roles exist that it needs. -/
theorem run_provision (h : Named st) (hexists : RolesExist request st) (before after : ℕ) :
    ∃ st', runCommands (provision request draw before after st) st = (true, st') ∧
      Provisioned request st' := by
  let secrets := fun p => (ensurePrincipalSecret request draw st p).2
  have hnamed (p : Principal) : (secrets p).NamedFor p := named_ensure h p
  have hcurrent (p : Principal) : (secrets p).isCurrent request = true := isCurrent_ensure st p
  have hdistinct : ∀ p q, (secrets p).access = (secrets q).access → p = q := by
    intro p q heq
    rw [(hnamed p).1, (hnamed q).1, fingerprint_of_isCurrent (hcurrent p),
      fingerprint_of_isCurrent (hcurrent q)] at heq
    exact accessOf_inj heq
  have hsame : SameRoles st st := fun _ => rfl
  obtain ⟨st₁, hrun₁, hsecrets₁, -⟩ := run_secrets request draw nodup_principals
    (fun _ _ => rfl) hsame fun p _ => hexists p
  obtain ⟨st₂, hrun₂, hsecrets₂, -, husers₂, -⟩ :=
    run_users request nodup_principals hdistinct st₁
  let logins := PRINCIPALS.map fun p => (roleOf p, (secrets p).password)
  refine ⟨st₂.setRoles logins, ?_, ?_⟩
  · have hroles : runCommands [.setRoles logins] st₂ = (true, st₂.setRoles logins) := rfl
    have hother : runCommands [.other] st₁ = (true, st₁) := rfl
    simp only [provision, List.flatMap_map, List.map_map, List.append_assoc]
    rw [runCommands_append (runCommands_replicate_other before st), runCommands_append hrun₁,
      runCommands_append hother, runCommands_append hrun₂,
      runCommands_append (runCommands_replicate_other 5 st₂)]
    exact (runCommands_append hroles _).trans (runCommands_replicate_other after _)
  · intro p
    refine ⟨secrets p, ?_, hcurrent p, ⟨(provisionedUser request p (secrets p)).policies, ?_⟩, ?_⟩
    · rw [secrets_setRoles, hsecrets₂]
      exact hsecrets₁ p (mem_principals p)
    · rw [users_setRoles]
      exact husers₂ p (mem_principals p)
    · rw [(hnamed p).2]
      exact lookup_setRoles nodup_principals (fun p => (secrets p).password) st₂ (mem_principals p)

theorem run_provision_failed (hmissing : ¬RolesExist request st) (before after : ℕ) :
    (runCommands (provision request draw before after st) st).1 = false := by
  have hsame : SameRoles st st := fun _ => rfl
  have hsecrets := run_secrets_failed request draw nodup_principals (fun _ _ => rfl) hsame
    fun hall => hmissing fun p => hall p (mem_principals p)
  simp only [provision, List.flatMap_map, List.append_assoc]
  rw [runCommands_append (runCommands_replicate_other before st)]
  exact runCommands_append_of_failed hsecrets _

/-- **After any calls, each stopped anywhere, a call succeeds and leaves what it promises exactly if the
roles exist of the secrets that it replaces.** -/
theorem provisioned_iff {st : State} (h : Reachable step {} st) (request : Request)
    (draw : Principal → Draw) (before after : ℕ) :
    ((runCommands (provision request draw before after st) st).1 = true ∧
      Provisioned request (runCommands (provision request draw before after st) st).2) ↔
        RolesExist request st := by
  constructor
  · rintro ⟨hsucceeds, -⟩
    by_contra hmissing
    rw [run_provision_failed hmissing before after] at hsucceeds
    cases hsucceeds
  · intro hexists
    obtain ⟨st', hrun, hprovisioned⟩ : ∃ st',
        runCommands (provision request draw before after st) st = (true, st') ∧
          Provisioned request st' := run_provision (named_reachable h) hexists before after
    rw [hrun]
    exact ⟨rfl, hprovisioned⟩

theorem isDigest_replicate {c : Char} (h : ('0' ≤ c && c ≤ '9') || ('a' ≤ c && c ≤ 'f')) :
    isDigest (String.ofList (List.replicate 64 c)) = true := by
  rw [isDigest, String.toList_ofList, List.length_replicate, List.all_replicate]
  simpa using h

def zeroRequest : Request where
  environmentFingerprint := String.ofList (List.replicate 64 '0')
  planDigest := String.ofList (List.replicate 64 '0')
  fingerprint_isDigest := isDigest_replicate (by decide)
  plan_isDigest := isDigest_replicate (by decide)

def oneRequest : Request where
  environmentFingerprint := String.ofList (List.replicate 64 '1')
  planDigest := String.ofList (List.replicate 64 '1')
  fingerprint_isDigest := isDigest_replicate (by decide)
  plan_isDigest := isDigest_replicate (by decide)

/-- A call that is stopped after its first secret. -/
def stopped : Call where
  request := zeroRequest
  draw := fun _ => ⟨"k", "p"⟩
  before := 7
  after := 8
  made := 8

/-- The stores after that call, with a secret whose user and role are not there yet. -/
def afterStopped : State :=
  State.setSecret {} .scenarioController (some (newSecret zeroRequest stopped.draw .scenarioController))

theorem reachable_afterStopped : Reachable step {} afterStopped :=
  have hstep : step {} stopped = some afterStopped := rfl
  .single trivial hstep

theorem secrets_afterStopped (principal : Principal) : afterStopped.secrets principal =
    if principal = .scenarioController then some (newSecret zeroRequest stopped.draw principal)
    else none := by
  cases principal <;> rfl

/-- The call that was stopped is made again, with other keys and passwords. -/
theorem provisioned_iff_again :
    Reachable step {} afterStopped ∧ RolesExist zeroRequest afterStopped ∧
      (afterStopped.secrets .scenarioController).isSome ∧ afterStopped.roles = ∅ ∧
      ((runCommands (provision zeroRequest (fun _ => ⟨"l", "q"⟩) 7 8 afterStopped) afterStopped).1 = true ∧
        Provisioned zeroRequest
          (runCommands (provision zeroRequest (fun _ => ⟨"l", "q"⟩) 7 8 afterStopped) afterStopped).2) := by
  have hexists : RolesExist zeroRequest afterStopped := by
    intro principal secret hsecret hcurrent
    rw [secrets_afterStopped] at hsecret
    split at hsecret
    · cases hsecret
      rw [Secret.isCurrent, newSecret, decide_eq_true rfl, decide_eq_true rfl] at hcurrent
      cases hcurrent
    · cases hsecret
  exact ⟨reachable_afterStopped, hexists, rfl, rfl,
    (provisioned_iff reachable_afterStopped zeroRequest (fun _ => ⟨"l", "q"⟩) 7 8).2 hexists⟩

theorem isCurrent_oneRequest (principal : Principal) :
    (newSecret zeroRequest stopped.draw principal).isCurrent oneRequest = false := by
  have hfirst : ('0' :: List.replicate 63 '0') ≠ '1' :: List.replicate 63 '1' := by
    intro h
    exact absurd (List.cons.inj h).1 (by decide)
  have hne : zeroRequest.environmentFingerprint ≠ oneRequest.environmentFingerprint := by
    intro h
    refine hfirst ?_
    rw [← List.replicate_succ, ← List.replicate_succ, ← String.toList_ofList (l := List.replicate 64 '0')]
    exact (congrArg String.toList h).trans String.toList_ofList
  rw [Secret.isCurrent, Bool.and_eq_false_iff]
  exact .inl (decide_eq_false hne)

/-- **A call may fail for good**: the secret names a role that was never created, and it is disabled before
the secret is replaced. -/
theorem not_provisioned :
    ¬∀ st, Reachable step {} st → ∀ (request : Request) (draw : Principal → Draw) (before after : ℕ),
      (runCommands (provision request draw before after st) st).1 = true ∧
        Provisioned request (runCommands (provision request draw before after st) st).2 := by
  intro h
  have hmissing : ¬RolesExist oneRequest afterStopped := by
    intro hexists
    have hrole := hexists .scenarioController _ (secrets_afterStopped _) (isCurrent_oneRequest _)
    cases hrole
  have hfailed : (runCommands (provision oneRequest stopped.draw 7 8 afterStopped) afterStopped).1 =
      false := run_provision_failed hmissing 7 8
  rw [(h afterStopped reachable_afterStopped oneRequest stopped.draw 7 8).1] at hfailed
  cases hfailed

end Provisioning
