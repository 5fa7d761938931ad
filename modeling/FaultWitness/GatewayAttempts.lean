/-
**How many calls the gateway makes.**

The calls of `complete` come from three sources: each profile of the route is called once, each may be
called again after a transient failure, and the whole request may be repaired.  All three are bounded by
the route policy, and by nothing else: the gateway never looks at `budget.max_model_calls`.

A pass through the loop over attempts spends either its turn, or a retry, or a repair; what is left of
the three together with the calls made does not grow.  A channel that first returns a result that has
to be repaired and then fails for as long as it is asked shows that the bound is reached.

Main definitions:

* `ModelGateway.callBound` — the number of calls that the policy allows for a request;
* `ModelGateway.worst` — the channel that uses them up.

Main results:

* `ModelGateway.length_attempts_le`, `ModelGateway.length_fallbacks_le` — the calls of the loops;
* `ModelGateway.calls_complete` — **the bound is the greatest number of calls**, and the budget is kept
  for all answers of the channels exactly if it is not below the bound.
-/

import Mathlib.Order.Bounds.Basic
import FaultWitness.ModelGateway

set_option autoImplicit false

namespace ModelGateway

variable (lib : Libraries) (g : Gateway)

/-! ### The bound -/

/-- The profiles that a request is tried on. -/
def served (request : ModelRequest) : List ModelProfile :=
  if rejectSensitiveRequest lib.isLetter request ∨ capability request = .stream then []
  else ((candidates g.catalog request.modelFamily (capability request)).getD []).filter
    fun p => g.channels p.channel

open Classical in
/-- The repairs that a request may still get, `done` of them having been made. -/
noncomputable def repairsLeft (request : ModelRequest) (done : ℕ) : ℕ :=
  if Repairable lib request then g.catalog.routePolicy.maxRepairs - done else 0

/-- The number of calls that the route policy allows. -/
noncomputable def callBound (request : ModelRequest) : ℕ :=
  if served lib g request = [] then 0
  else (served lib g request).length * (1 + g.catalog.routePolicy.maxTransientRetries) +
    repairsLeft lib g request 0

theorem repairable_repairRequest (request : ModelRequest) :
    Repairable lib (repairRequest request) ↔ Repairable lib request :=
  Iff.rfl

variable {lib g} {channel : ModelChannel} {traceId : String}

theorem repairsLeft_repairRequest (request : ModelRequest) (done : ℕ) :
    repairsLeft lib g (repairRequest request) done = repairsLeft lib g request done := by
  unfold repairsLeft
  rw [repairable_repairRequest]

theorem repairsLeft_succ {request : ModelRequest} {done : ℕ} (h : Repairable lib request)
    (hmax : done < g.catalog.routePolicy.maxRepairs) :
    repairsLeft lib g request (done + 1) + 1 = repairsLeft lib g request done := by
  unfold repairsLeft
  rw [if_pos h, if_pos h]
  omega

/-! ### No more calls -/

variable (lib g channel traceId) in
/-- **The calls on one profile**: its turn, the retries, and the repairs that are used up. -/
theorem length_attempts_le (profile : ModelProfile) (k : ℕ) (st : Progress) :
    (attempts lib g channel traceId profile k st).1.sent.length +
      repairsLeft lib g (attempts lib g channel traceId profile k st).1.request
        (attempts lib g channel traceId profile k st).1.repairCount ≤
      st.sent.length + 1 + st.retries + repairsLeft lib g st.request st.repairCount := by
  fun_induction attempts lib g channel traceId profile k st with
  | case1 st st' hpass hleft ih =>
    have hpassed := passed lib g channel traceId profile k st
    rw [hpass] at hpassed
    simp only at hpassed
    cases hpassed with
    | retried hsent hretries hrepairs hrequest =>
      rw [hrepairs, hrequest] at ih
      omega
    | repaired hsent hretries hrepairs hmax hrequest hrepairable =>
      rw [hrepairs, hrequest, repairsLeft_repairRequest] at ih
      have hspent := repairsLeft_succ hrepairable hmax
      omega
  | case2 st st' e hpass =>
    have hpassed := passed lib g channel traceId profile k st
    rw [hpass] at hpassed
    simp only at hpassed
    cases hpassed with
    | refused err hsent hrepairs hrequest =>
      rw [hsent, hrepairs, hrequest]
      omega
    | ended e hsent hrepairs hrequest =>
      rw [hsent, hrepairs, hrequest]
      omega

variable (lib g channel traceId) in
theorem length_fallbacks_le (profiles : List ModelProfile) (k : ℕ) (st : Progress) :
    (fallbacks lib g channel traceId k profiles st).1.sent.length ≤
      st.sent.length +
        (profiles.filter fun p => g.channels p.channel).length *
          (1 + g.catalog.routePolicy.maxTransientRetries) +
        repairsLeft lib g st.request st.repairCount := by
  induction profiles generalizing k st with
  | nil =>
    simp only [fallbacks]
    split
    · exact Nat.le_add_right_of_le (Nat.le_add_right _ _)
    · exact Nat.le_add_right_of_le (Nat.le_add_right _ _)
  | cons profile rest ih =>
    simp only [fallbacks]
    split
    · rename_i hchannel
      have hattempts := length_attempts_le lib g channel traceId profile k
        { st with retries := g.catalog.routePolicy.maxTransientRetries }
      generalize attempts lib g channel traceId profile k _ = result at hattempts ⊢
      obtain ⟨st', ended⟩ := result
      simp only at hattempts
      rw [List.filter_cons_of_pos (by simpa using hchannel), List.length_cons, Nat.succ_mul]
      have hrest := ih (k + 1) st'
      split
      · rename_i heq
        cases heq
        simp only
        omega
      · rename_i heq
        cases heq
        simp only
        omega
      · rename_i heq
        cases heq
        split
        · split
          · omega
          · simp only
            omega
        · omega
    · rename_i hchannel
      rw [List.filter_cons_of_neg (by simpa using hchannel)]
      exact ih _ _

variable (lib g channel traceId) in
theorem sent_fallbacks_of_none (profiles : List ModelProfile) (k : ℕ) (st : Progress)
    (hnone : (profiles.filter fun p => g.channels p.channel) = []) :
    (fallbacks lib g channel traceId k profiles st).1.sent = st.sent := by
  induction profiles generalizing k st with
  | nil =>
    simp only [fallbacks]
    split
    · rfl
    · rfl
  | cons profile rest ih =>
    have hall := List.filter_eq_nil_iff.1 hnone
    simp only [fallbacks]
    rw [if_neg (hall profile List.mem_cons_self)]
    refine ih (k + 1) _ ?_
    exact List.filter_eq_nil_iff.2 fun p hp => hall p (List.mem_cons_of_mem _ hp)

/-- A request that is tried on profiles passes the checks before the loops. -/
theorem complete_of_served {request : ModelRequest} (hserved : served lib g request ≠ []) :
    ∃ profiles, served lib g request = profiles.filter (fun p => g.channels p.channel) ∧
      ∀ channel traceId, complete lib g channel traceId request =
        fallbacks lib g channel traceId 0 profiles { request := request } := by
  unfold served at hserved ⊢
  split at hserved
  · exact absurd rfl hserved
  rename_i hchecks
  rw [not_or] at hchecks
  obtain ⟨hsafe, hstream⟩ := hchecks
  cases hcandidates : candidates g.catalog request.modelFamily (capability request) with
  | none =>
    rw [hcandidates] at hserved
    exact absurd rfl hserved
  | some profiles =>
    rw [hcandidates] at hserved
    refine ⟨profiles, by rw [if_neg (by simp [hsafe, hstream])]; rfl, ?_⟩
    intro channel traceId
    simp only [complete, hsafe, hstream, hcandidates, if_false, Bool.false_eq_true]
    cases profiles with
    | nil => exact absurd rfl hserved
    | cons profile rest => rfl

variable (lib g channel traceId) in
theorem sent_complete_of_not_served (request : ModelRequest) (hserved : served lib g request = []) :
    (complete lib g channel traceId request).1.sent = [] := by
  simp only [complete]
  split
  · rfl
  rename_i hsafe
  split
  · rfl
  rename_i hstream
  split
  · rfl
  · rfl
  · rename_i profile rest hcandidates
    refine sent_fallbacks_of_none lib g channel traceId (profile :: rest) 0 _ ?_
    unfold served at hserved
    rw [if_neg (by simp [hsafe, hstream]), hcandidates] at hserved
    exact hserved

variable (lib g channel traceId) in
/-- **The gateway makes no more calls than the policy allows.** -/
theorem length_complete_le (request : ModelRequest) :
    (complete lib g channel traceId request).1.sent.length ≤ callBound lib g request := by
  unfold callBound
  split
  · rename_i hnone
    rw [sent_complete_of_not_served lib g channel traceId request hnone]
    exact Nat.le_refl _
  · rename_i hserved
    obtain ⟨profiles, hprofiles, hcomplete⟩ := complete_of_served hserved
    have hlength := length_fallbacks_le lib g channel traceId profiles 0 { request := request }
    rw [hcomplete, hprofiles]
    simp only [List.length_nil, Nat.zero_add] at hlength
    exact hlength

/-! ### As many calls -/

/-- A failure that is retried. -/
def timeout : ModelFailure := { code := .timeout, retryable := true }

/-- The channel on which every call times out. -/
def down : ModelChannel := fun _ _ => .error (.failure timeout)

/-- The channel that answers its first calls with one result and fails from then on. -/
def worst (repairs : ℕ) (result : ChannelResult) : ModelChannel := fun n _ =>
  if n < repairs then .ok result else .error (.failure timeout)

theorem worst_of_lt {repairs n : ℕ} (h : n < repairs) (result : ChannelResult) (call : Sent) :
    worst repairs result n call = .ok result :=
  if_pos h

theorem worst_of_ge {repairs n : ℕ} (h : repairs ≤ n) (result : ChannelResult) (call : Sent) :
    worst repairs result n call = .error (.failure timeout) :=
  if_neg (Nat.not_lt.2 h)

variable (g) in
theorem exists_route (htrace : traceId ≠ "") (request : ModelRequest) (profile : ModelProfile)
    {attempt : ℕ} (hattempt : 1 ≤ attempt) (k : ℕ) {c : ℕ} (hc : c ≤ 1) :
    ∃ r, route g traceId request profile attempt k c none = some r := by
  refine ⟨_, if_pos ?_⟩
  simp [RouteMetadata.valid, request.modelId_ne, profile.modelId_ne, hattempt, hc, htrace]

section Timeouts

variable (lib g channel)

theorem pass_timeout (htrace : traceId ≠ "") (profile : ModelProfile) (k : ℕ) (st : Progress)
    (hrepairs : st.repairCount ≤ 1)
    (hanswer : ∀ call, channel st.sent.length call = .error (.failure timeout)) :
    ∃ st', pass lib g channel traceId profile k st =
        (st', if 0 < st.retries then .again else .ended .broke) ∧
      st'.sent.length = st.sent.length + 1 ∧ st'.retries = st.retries - 1 ∧
      st'.repairCount = st.repairCount ∧ st'.lastError = some timeout := by
  obtain ⟨r, hr⟩ := exists_route g htrace st.request profile (Nat.le_add_left 1 st.attempt) k hrepairs
  simp only [pass, hr, hanswer, raise, recover]
  by_cases hretries : 0 < st.retries
  · rw [if_pos ⟨rfl, hretries⟩, if_pos hretries]
    exact ⟨_, rfl, by simp, rfl, rfl, rfl⟩
  · rw [if_neg fun h => hretries h.2, if_neg hretries]
    refine ⟨_, rfl, by simp, ?_, rfl, rfl⟩
    show st.retries = st.retries - 1
    omega

theorem attempts_timeout (htrace : traceId ≠ "") (profile : ModelProfile) (k : ℕ) (st : Progress)
    (hrepairs : st.repairCount ≤ 1)
    (hanswer : ∀ n, st.sent.length ≤ n → ∀ call, channel n call = .error (.failure timeout)) :
    ∃ st', attempts lib g channel traceId profile k st = (st', .broke) ∧
      st'.sent.length = st.sent.length + (1 + st.retries) ∧ st'.repairCount = st.repairCount ∧
      st'.lastError = some timeout := by
  induction hleft : st.retries generalizing st with
  | zero =>
    obtain ⟨st', hpass, hsent, -, hcount, herror⟩ := pass_timeout lib g channel htrace profile k st
      hrepairs (hanswer _ (Nat.le_refl _))
    rw [if_neg (by omega)] at hpass
    exact ⟨st', attempts_ended hpass, hsent, hcount, herror⟩
  | succ n ih =>
    obtain ⟨st', hpass, hsent, hretries, hcount, herror⟩ := pass_timeout lib g channel htrace profile k
      st hrepairs (hanswer _ (Nat.le_refl _))
    rw [if_pos (by omega)] at hpass
    obtain ⟨st'', hattempts, hsent', hcount', herror'⟩ := ih st' (by omega)
      (fun m hm => hanswer m (by omega)) (by omega)
    exact ⟨st'', (attempts_again hpass).trans hattempts, by omega, by omega, herror'⟩

/-- A list of profiles on which every call times out. -/
theorem length_fallbacks_timeout (htrace : traceId ≠ "") (profiles : List ModelProfile) (k : ℕ)
    (st : Progress) (hrepairs : st.repairCount ≤ 1)
    (hanswer : ∀ n, st.sent.length ≤ n → ∀ call, channel n call = .error (.failure timeout)) :
    (fallbacks lib g channel traceId k profiles st).1.sent.length =
      st.sent.length + (profiles.filter fun p => g.channels p.channel).length *
        (1 + g.catalog.routePolicy.maxTransientRetries) := by
  induction profiles generalizing k st with
  | nil =>
    simp only [fallbacks]
    split
    · simp
    · simp
  | cons profile rest ih =>
    by_cases hchannel : g.channels profile.channel = true
    · obtain ⟨st', hattempts, hsent, hcount, herror⟩ := attempts_timeout lib g channel htrace profile k
        { st with retries := g.catalog.routePolicy.maxTransientRetries } hrepairs hanswer
      simp only at hsent hcount
      simp only [fallbacks, hchannel, if_true, hattempts, herror, timeout]
      rw [ih (k + 1) st' (by omega) fun n hn => hanswer n (by omega),
        List.filter_cons_of_pos (by simpa using hchannel), List.length_cons, Nat.succ_mul]
      omega
    · simp only [fallbacks, hchannel, Bool.false_eq_true, if_false]
      rw [List.filter_cons_of_neg (by simpa using hchannel)]
      exact ih (k + 1) _ hrepairs hanswer

end Timeouts

section Worst

variable (lib g)

variable {result : ChannelResult}

theorem pass_repair (htrace : traceId ≠ "") (profile : ModelProfile) (k : ℕ) (st : Progress)
    (hresult : Unsatisfied lib st.request result)
    (hmax : st.repairCount < g.catalog.routePolicy.maxRepairs)
    (hanswer : ∀ call, channel st.sent.length call = .ok result) :
    ∃ st', pass lib g channel traceId profile k st = (st', .again) ∧
      st'.sent.length = st.sent.length + 1 ∧ st'.retries = st.retries ∧
      st'.repairCount = st.repairCount + 1 ∧ st'.request = repairRequest st.request := by
  obtain ⟨schema, e, hschema, htools, hinvalid⟩ := hresult
  have hone := g.catalog.routePolicy.maxRepairs_le
  have hcount : st.repairCount ≤ 1 := by omega
  obtain ⟨r, hr⟩ := exists_route g htrace st.request profile (Nat.le_add_left 1 st.attempt) k hcount
  have hchecked : (if st.request.toolSchemas = [] then .ok () else
      validateToolCalls lib result st.request.toolSchemas) = Except.ok () := by
    rcases htools with hnone | hvalid
    · rw [if_pos hnone]
    · rw [hvalid, ite_self]
  simp only [pass, hr, hanswer, settle, hchecked, hschema, hinvalid]
  rw [if_neg (by omega)]
  exact ⟨_, rfl, by simp, rfl, rfl, rfl⟩

/-- The first profile that the worst channel is called for. -/
theorem attempts_worst (htrace : traceId ≠ "") (profile : ModelProfile) (k : ℕ) (st : Progress)
    (hresult : Unsatisfied lib st.request result)
    (hmax : st.repairCount ≤ g.catalog.routePolicy.maxRepairs)
    (hsent : st.sent.length = st.repairCount) :
    ∃ st', attempts lib g (worst g.catalog.routePolicy.maxRepairs result) traceId profile k st =
        (st', .broke) ∧
      st'.sent.length = g.catalog.routePolicy.maxRepairs + (1 + st.retries) ∧
      st'.repairCount ≤ 1 ∧ st'.lastError = some timeout := by
  have hone := g.catalog.routePolicy.maxRepairs_le
  induction hrest : g.catalog.routePolicy.maxRepairs - st.repairCount generalizing st with
  | zero =>
    -- all repairs are spent
    obtain ⟨st', hattempts, hlength, hcount, herror⟩ := attempts_timeout lib g
      (worst g.catalog.routePolicy.maxRepairs result) htrace profile k st (by omega)
      (fun n hn => worst_of_ge (show g.catalog.routePolicy.maxRepairs ≤ n by omega) result)
    exact ⟨st', hattempts, by omega, by omega, herror⟩
  | succ n ih =>
    have hlt : st.sent.length < g.catalog.routePolicy.maxRepairs := by omega
    obtain ⟨st', hpass, hlength, hretries, hcount, hrequest⟩ := pass_repair lib g htrace profile k st
      hresult (by omega) (worst_of_lt hlt result)
    have hresult' : Unsatisfied lib st'.request result := by
      rw [hrequest]
      exact hresult
    obtain ⟨st'', hattempts, hlength', hcount', herror⟩ := ih st' hresult' (by omega) (by omega)
      (by omega)
    exact ⟨st'', (attempts_again hpass).trans hattempts, by omega, hcount', herror⟩

/-- A list of profiles, the worst channel not having been called before. -/
theorem length_fallbacks_worst (htrace : traceId ≠ "") (profiles : List ModelProfile) (k : ℕ)
    (st : Progress) (hresult : Unsatisfied lib st.request result) (hcount : st.repairCount = 0)
    (hsent : st.sent = []) (hsome : (profiles.filter fun p => g.channels p.channel) ≠ []) :
    (fallbacks lib g (worst g.catalog.routePolicy.maxRepairs result) traceId k profiles
        st).1.sent.length =
      (profiles.filter fun p => g.channels p.channel).length *
        (1 + g.catalog.routePolicy.maxTransientRetries) + g.catalog.routePolicy.maxRepairs := by
  induction profiles generalizing k st with
  | nil => exact absurd rfl hsome
  | cons profile rest ih =>
    by_cases hchannel : g.channels profile.channel = true
    · obtain ⟨st', hattempts, hlength, hone, herror⟩ := attempts_worst lib g htrace profile k
        { st with retries := g.catalog.routePolicy.maxTransientRetries } hresult
        (by simp [hcount]) (by simp [hcount, hsent])
      simp only at hlength
      have hrest := length_fallbacks_timeout lib g (worst g.catalog.routePolicy.maxRepairs result)
        htrace rest (k + 1) st' hone fun n hn call => worst_of_ge (by omega) result call
      simp only [fallbacks, hchannel, if_true, hattempts, herror, timeout]
      rw [hrest, List.filter_cons_of_pos (by simpa using hchannel), List.length_cons, Nat.succ_mul]
      omega
    · rw [List.filter_cons_of_neg (by simpa using hchannel)] at hsome ⊢
      simp only [fallbacks, hchannel, Bool.false_eq_true, if_false]
      exact ih (k + 1) _ hresult hcount hsent hsome

theorem length_complete_down (htrace : traceId ≠ "") (request : ModelRequest) :
    (complete lib g down traceId request).1.sent.length =
      (served lib g request).length * (1 + g.catalog.routePolicy.maxTransientRetries) := by
  by_cases hserved : served lib g request = []
  · rw [sent_complete_of_not_served lib g down traceId request hserved, hserved]
    simp
  · obtain ⟨profiles, hprofiles, hcomplete⟩ := complete_of_served hserved
    have hlength := length_fallbacks_timeout lib g down htrace profiles 0 { request := request }
      (Nat.zero_le 1) fun _ _ _ => rfl
    rw [hcomplete, hprofiles, hlength]
    simp

/-- **The bound is reached.** -/
theorem exists_length_complete (request : ModelRequest) :
    ∃ channel traceId, (complete lib g channel traceId request).1.sent.length =
      callBound lib g request := by
  unfold callBound repairsLeft
  by_cases hserved : served lib g request = []
  · refine ⟨down, "", ?_⟩
    rw [sent_complete_of_not_served lib g down "" request hserved, if_pos hserved]
    rfl
  rw [if_neg hserved]
  by_cases hrepairable : Repairable lib request
  · obtain ⟨profiles, hprofiles, hcomplete⟩ := complete_of_served hserved
    obtain ⟨result, hresult⟩ := hrepairable
    refine ⟨worst g.catalog.routePolicy.maxRepairs result, "trace", ?_⟩
    rw [hprofiles] at hserved
    rw [hcomplete, hprofiles, if_pos ⟨result, hresult⟩]
    exact length_fallbacks_worst lib g (by decide) profiles 0 _ hresult rfl rfl hserved
  · refine ⟨down, "trace", ?_⟩
    rw [length_complete_down lib g (by decide) request, if_neg hrepairable, Nat.add_zero]

/-! ### The budget -/

/-- **The calls of a request.**  The bound that the route policy sets is the greatest number of calls
that the answers of the channels can bring about; so the calls stay within the budget, whatever the
channels answer, exactly if the budget is not below the bound. -/
theorem calls_complete (request : ModelRequest) :
    IsGreatest
        {n | ∃ channel traceId, (complete lib g channel traceId request).1.sent.length = n}
        (callBound lib g request) ∧
      ((∀ channel traceId, (complete lib g channel traceId request).1.sent.length ≤
          request.budget.maxModelCalls) ↔
        callBound lib g request ≤ request.budget.maxModelCalls) := by
  refine ⟨⟨exists_length_complete lib g request, ?_⟩, ?_, ?_⟩
  · rintro n ⟨channel, traceId, rfl⟩
    exact length_complete_le lib g channel traceId request
  · intro hbudget
    obtain ⟨channel, traceId, hlength⟩ := exists_length_complete lib g request
    rw [← hlength]
    exact hbudget channel traceId
  · intro hbound channel traceId
    exact (length_complete_le lib g channel traceId request).trans hbound

end Worst

/-! ### The catalog of the repository -/

def shippedProfile (family : ModelFamily) (modelId : String) (overrides : List (String × Bool))
    (h : modelId ≠ "") : ModelProfile where
  family := family
  channel := .bailian
  modelId := modelId
  capabilities := [.complete, .structured, .forcedTool, .stream]
  requestOverrides := overrides
  modelId_ne := h

def shippedProfiles (name : String) : Option ModelProfile :=
  if name = "qwen_primary" then
    some (shippedProfile .qwen "qwen3.7-plus-2026-05-26" [("enable_thinking", false)] (by decide))
  else if name = "deepseek_primary" then
    some (shippedProfile .deepseek "deepseek-v3.2" [("enable_thinking", false)] (by decide))
  else if name = "glm_primary" then
    some (shippedProfile .glm "glm-5.2" [("enable_thinking", false), ("tool_stream", true)]
      (by decide))
  else none

def shippedRoute : ModelFamily → List String
  | .qwen => ["qwen_primary", "deepseek_primary", "glm_primary"]
  | .deepseek => ["deepseek_primary", "qwen_primary", "glm_primary"]
  | .glm => ["glm_primary", "qwen_primary", "deepseek_primary"]

/-- The catalog with the gateway that the server makes of it. -/
def shipped : Gateway where
  catalog :=
    { catalogVersion := "1.0.0"
      profiles := shippedProfiles
      routePolicy := { version := "1.0.0", routes := fun family => some (shippedRoute family) }
      routes_ne := by
        rintro family names h
        cases h
        cases family <;> simp [shippedRoute]
      routes_known := by
        rintro family names h
        cases h
        cases family <;> decide
      routes_primary := by
        rintro family name names h profile hprofile
        cases family <;> cases h <;> cases hprofile <;> rfl }
  channels name := name = .bailian

/-- A request with the budget of the server. -/
def sampleRequest : ModelRequest where
  requestId := "mreq_01ARZ3NDEKTSV4RRFFQ69G5FAV"
  tenantId := "ten_01ARZ3NDEKTSV4RRFFQ69G5FAV"
  correlationId := "corr_01ARZ3NDEKTSV4RRFFQ69G5FAV"
  modelFamily := .qwen
  modelId := "qwen3.7-plus-2026-05-26"
  messages := [{ role := .user, content := "return result" }]
  budget := { maxModelCalls := 3 }
  modelId_ne := by decide
  messages_ne := by decide

/-- Libraries that a request in ASCII without schemas does not use. -/
def noLibraries : Libraries where
  loads _ := .error .jsonDecodeError
  checkSchema _ := .ok ()
  validate _ _ := .ok ()
  isLetter _ := false

/-- The upstream is down, and the gateway calls it six times for a budget of three. -/
theorem calls_exceed_budget :
    sampleRequest.budget.maxModelCalls = 3 ∧
      (complete noLibraries shipped down "trace" sampleRequest).1.sent.length = 6 := by
  have hserved : (served noLibraries shipped sampleRequest).length = 3 := by decide +kernel
  refine ⟨rfl, ?_⟩
  rw [length_complete_down noLibraries shipped (by decide) sampleRequest, hserved]
  rfl

end ModelGateway
