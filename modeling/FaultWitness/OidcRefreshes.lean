/-
**Concurrent calls for a signing key.**

Calls of `OIDCAuthenticator._key` run on one event loop.  A call looks at the cached keys, and if
they are too old or do not have its identifier it waits for the lock, looks once more, and only then
fetches the JWKS document; it is suspended while it waits and while it fetches.  Calls interleave at
these two places, a fetch comes to anything, and a call may be cancelled.

A label names the call that moves, with the clock that it reads and with what its fetch comes to.
`started` is the time at which a fetch starts, after the clock has been read.  The log of a state is
written for the statements only: no step reads it.

Main definitions:

* `OidcRefreshes.State`, `OidcRefreshes.step` — an authenticator with its calls, and their moves;
* `OidcRefreshes.Event`, `OidcRefreshes.latest` — what is logged, newest first, and the last refresh
  of a log;
* `OidcRefreshes.Served` — a key that was returned was in the last refresh before, which was recent.

Main results:

* `OidcRefreshes.Invariant.step` — a step keeps that the cache is what the last refresh loaded and
  that every returned key was served from it;
* `OidcRefreshes.keys_fresh` — **returned keys are recent, a failed refresh changes nothing, and what
  a refresh drops is not returned until it is loaded again**.
-/

import FaultWitness.OidcAuthentication
import FaultWitness.Runs
import Mathlib.Tactic.Linarith

set_option autoImplicit false

namespace OidcRefreshes

open Python Runs OidcAuthentication

variable {Key : Type}

/-! ### Calls and their moves -/

/-- Where a call stands: what it has seen of the cache and of the clock. -/
inductive Call (Key : Type)
  | waiting (kid : String) (cache : Cache Key) (now : ℚ)
  | fetching (kid : String) (cache : Cache Key) (now : ℚ) (lockedCache : Cache Key) (lockedNow : ℚ)
      (started : ℚ)
  | ended

/-- What is logged. -/
inductive Event (Key : Type)
  /-- The fetch of a call, started at this time, has been loaded. -/
  | refreshed (call : ℕ) (fetch : Fetch) (started : ℚ)
  /-- A call has returned this key; the time is its last look at the clock. -/
  | returned (call : ℕ) (kid : String) (key : Key) (last : ℚ)
  | raised (call : ℕ) (kid : String) (fault : Fault)

/-- An authenticator: its cache, the call that holds its lock, its calls and their log, newest
first. -/
structure State (Key : Type) where
  cache : Cache Key := {}
  holder : Option ℕ := none
  calls : ℕ → Option (Call Key) := fun _ => none
  log : List (Event Key) := []

def State.setCall (s : State Key) (call : ℕ) (c : Call Key) : State Key :=
  { s with calls := Function.update s.calls call (some c) }

/-- A call that ends, with the key or with an exception. -/
def State.finish (s : State Key) (call : ℕ) (kid : String) (last : ℚ) (result : Except Fault Key) :
    State Key :=
  { s.setCall call .ended with
    log :=
      match result with
      | .ok key => .returned call kid key last :: s.log
      | .error fault => .raised call kid fault :: s.log }

inductive Label
  /-- A call begins and looks at the cache. -/
  | begin (call : ℕ) (kid : String) (now : ℚ)
  /-- A call gets the lock and looks again; if it fetches, the fetch starts at this time. -/
  | lock (call : ℕ) (now started : ℚ)
  | fetched (call : ℕ) (fetch : Fetch)
  | cancel (call : ℕ)

/-- The moves of the calls of `_key`. -/
def step (settings : OIDCSettings) (jwt : PyJWT Key) (s : State Key) : Label → Option (State Key)
  | .begin call kid now =>
    if (s.calls call).isSome then none
    else if needsRefresh settings s.cache now kid then
      some (s.setCall call (.waiting kid s.cache now))
    else some (s.finish call kid now (known s.cache.keys kid))
  | .lock call now started =>
    match s.calls call with
    | some (.waiting kid cache first) =>
      if s.holder.isSome ∨ started < now then none
      else if needsRefresh settings s.cache now kid then
        some { s.setCall call (.fetching kid cache first s.cache now started) with
          holder := some call }
      else some (s.finish call kid now (known s.cache.keys kid))
    | _ => none
  | .fetched call fetch =>
    match s.calls call with
    | some (.fetching kid _ _ _ now started) =>
      match refresh jwt fetch with
      | .error fault => some ({ s with holder := none }.finish call kid now (.error fault))
      | .ok loaded =>
        some ({ s with
          cache := ⟨loaded, now⟩
          holder := none
          log := .refreshed call fetch started :: s.log }.finish call kid now
            (known loaded kid))
    | _ => none
  | .cancel call =>
    match s.calls call with
    | some (.waiting _ _ _) => some (s.setCall call .ended)
    | some (.fetching _ _ _ _ _ _) => some { s.setCall call .ended with holder := none }
    | _ => none

/-- **What a move can be**: one case for each branch of a call. -/
inductive Moves (settings : OIDCSettings) (jwt : PyJWT Key) (s : State Key) : Label → State Key → Prop
  | waits {call : ℕ} {kid : String} {now : ℚ} (hneeds : needsRefresh settings s.cache now kid = true) :
      Moves settings jwt s (.begin call kid now) (s.setCall call (.waiting kid s.cache now))
  | hits {call : ℕ} {kid : String} {now : ℚ} (hfresh : needsRefresh settings s.cache now kid = false) :
      Moves settings jwt s (.begin call kid now) (s.finish call kid now (known s.cache.keys kid))
  | fetches {call : ℕ} {now started : ℚ} {kid : String} {cache : Cache Key} {first : ℚ}
      (hcall : s.calls call = some (.waiting kid cache first)) (htime : now ≤ started)
      (hneeds : needsRefresh settings s.cache now kid = true) :
      Moves settings jwt s (.lock call now started)
        { s.setCall call (.fetching kid cache first s.cache now started) with holder := some call }
  | hitsLocked {call : ℕ} {now started : ℚ} {kid : String} {cache : Cache Key} {first : ℚ}
      (hcall : s.calls call = some (.waiting kid cache first))
      (hfresh : needsRefresh settings s.cache now kid = false) :
      Moves settings jwt s (.lock call now started)
        (s.finish call kid now (known s.cache.keys kid))
  | fails {call : ℕ} {fetch : Fetch} {kid : String} {cache : Cache Key} {first : ℚ}
      {locked : Cache Key} {now started : ℚ} {fault : Fault}
      (hcall : s.calls call = some (.fetching kid cache first locked now started))
      (hfault : refresh jwt fetch = .error fault) :
      Moves settings jwt s (.fetched call fetch)
        ({ s with holder := none }.finish call kid now (.error fault))
  | loads {call : ℕ} {fetch : Fetch} {kid : String} {cache : Cache Key} {first : ℚ}
      {locked : Cache Key} {now started : ℚ} {loaded : List (String × Key)}
      (hcall : s.calls call = some (.fetching kid cache first locked now started))
      (hload : refresh jwt fetch = .ok loaded) :
      Moves settings jwt s (.fetched call fetch)
        ({ s with
          cache := ⟨loaded, now⟩
          holder := none
          log := .refreshed call fetch started :: s.log }.finish call kid now (known loaded kid))
  | leaves {call : ℕ} : Moves settings jwt s (.cancel call) (s.setCall call .ended)
  | releases {call : ℕ} :
      Moves settings jwt s (.cancel call) { s.setCall call .ended with holder := none }

variable {settings : OIDCSettings} {jwt : PyJWT Key} {s s' : State Key} {l : Label}

theorem moves_of_step (hs : step settings jwt s l = some s') : Moves settings jwt s l s' := by
  cases l with
  | begin call kid now =>
    simp only [step] at hs
    split at hs
    · cases hs
    · split at hs
      · rename_i hneeds
        cases hs
        exact .waits hneeds
      · rename_i hfresh
        cases hs
        exact .hits (Bool.not_eq_true _ ▸ hfresh)
  | lock call now started =>
    simp only [step] at hs
    split at hs
    · rename_i kid cache first hcall
      split at hs
      · cases hs
      · rename_i hfree
        rw [not_or, not_lt] at hfree
        split at hs
        · rename_i hneeds
          cases hs
          exact .fetches hcall hfree.2 hneeds
        · rename_i hfresh
          cases hs
          exact .hitsLocked hcall (Bool.not_eq_true _ ▸ hfresh)
    · cases hs
  | fetched call fetch =>
    simp only [step] at hs
    split at hs
    · rename_i kid cache first locked now started hcall
      split at hs
      · rename_i fault hfault
        cases hs
        exact .fails hcall hfault
      · rename_i loaded hload
        cases hs
        exact .loads hcall hload
    · cases hs
  | cancel call =>
    simp only [step] at hs
    split at hs
    · cases hs
      exact .leaves
    · cases hs
      exact .releases
    · cases hs

/-! ### The log -/

/-- The last refresh of a log. -/
def latest : List (Event Key) → Option (ℕ × Fetch × ℚ)
  | [] => none
  | .refreshed call fetch started :: _ => some (call, fetch, started)
  | _ :: log => latest log

variable {call : ℕ}

theorem mem_of_latest {log : List (Event Key)} {fetch : Fetch} {started : ℚ}
    (h : latest log = some (call, fetch, started)) : .refreshed call fetch started ∈ log := by
  induction log with
  | nil => cases h
  | cons e log ih =>
    cases e with
    | refreshed c f t =>
      cases h
      exact List.mem_cons_self
    | returned c kid key last => exact List.mem_cons_of_mem _ (ih h)
    | raised c kid fault => exact List.mem_cons_of_mem _ (ih h)

/-- The last refresh is the one after which there is none, or one of those after it. -/
theorem latest_append (middle earlier : List (Event Key)) (call : ℕ) (fetch : Fetch) (started : ℚ) :
    latest (middle ++ .refreshed call fetch started :: earlier) = some (call, fetch, started) ∨
      ∃ call' fetch' started', .refreshed call' fetch' started' ∈ middle ∧
        latest (middle ++ .refreshed call fetch started :: earlier) =
          some (call', fetch', started') := by
  induction middle with
  | nil => exact Or.inl rfl
  | cons e middle ih =>
    cases e with
    | refreshed c f t => exact Or.inr ⟨c, f, t, List.mem_cons_self, rfl⟩
    | returned c kid key last =>
      rcases ih with h | ⟨c', f', t', hmem, h⟩
      · exact Or.inl h
      · exact Or.inr ⟨c', f', t', List.mem_cons_of_mem _ hmem, h⟩
    | raised c kid fault =>
      rcases ih with h | ⟨c', f', t', hmem, h⟩
      · exact Or.inl h
      · exact Or.inr ⟨c', f', t', List.mem_cons_of_mem _ hmem, h⟩

/-- A fetched document contains a key under an identifier. -/
def Contains (jwt : PyJWT Key) (fetch : Fetch) (kid : String) (key : Key) : Prop :=
  ∃ document items, fetch = .body document ∧ keyItems document = some items ∧
    ∃ item ∈ items, Gives jwt item kid key

variable {kid : String} {key : Key}

theorem contains_of_refresh {fetch : Fetch} {loaded : List (String × Key)}
    (h : refresh jwt fetch = .ok loaded) (hkey : loaded.lookup kid = some key) :
    Contains jwt fetch kid key := by
  cases fetch with
  | failed => cases h
  | notJson => cases h
  | body document =>
    obtain ⟨items, hitems, -, hmem⟩ := loadKeys_eq_ok h
    exact ⟨document, items, rfl, hitems, (hmem kid key).1 (TransitionKernel.mem_of_lookup hkey)⟩

/-- A key that a call returns after a log: the last refresh has loaded it, and it is the call's own
or has started less than `cache_seconds` before the call's last look at the clock. -/
def Served (settings : OIDCSettings) (jwt : PyJWT Key) (log : List (Event Key)) (call : ℕ)
    (kid : String) (key : Key) (last : ℚ) : Prop :=
  ∃ call' fetch started loaded, latest log = some (call', fetch, started) ∧
    refresh jwt fetch = .ok loaded ∧ loaded.lookup kid = some key ∧
    (call' = call ∨ last - started < settings.cacheSeconds)

/-- Every returned key was served from the log before it. -/
def Sound (settings : OIDCSettings) (jwt : PyJWT Key) : List (Event Key) → Prop
  | [] => True
  | .returned call kid key last :: log =>
    Served settings jwt log call kid key last ∧ Sound settings jwt log
  | _ :: log => Sound settings jwt log

theorem Sound.served {later earlier : List (Event Key)} {last : ℚ}
    (h : Sound settings jwt (later ++ .returned call kid key last :: earlier)) :
    Served settings jwt earlier call kid key last := by
  induction later with
  | nil => exact h.1
  | cons e later ih =>
    cases e with
    | refreshed c f t => exact ih h
    | returned c kid' key' last' => exact ih h.2
    | raised c kid' fault => exact ih h

/-! ### What the moves keep -/

/-- The cache is what the last refresh loaded, and its time is before the start of the fetch. -/
def Cached (jwt : PyJWT Key) (s : State Key) : Prop :=
  match latest s.log with
  | none => s.cache.keys = []
  | some (_, fetch, started) => refresh jwt fetch = .ok s.cache.keys ∧ s.cache.loadedAt ≤ started

structure Invariant (settings : OIDCSettings) (jwt : PyJWT Key) (s : State Key) : Prop where
  cached : Cached jwt s
  timed : ∀ call kid cache first locked now started,
    s.calls call = some (.fetching kid cache first locked now started) → now ≤ started
  sound : Sound settings jwt s.log

theorem known_eq_ok {keys : List (String × Key)} (h : known keys kid = .ok key) :
    keys.lookup kid = some key := by
  unfold known at h
  split at h
  · rename_i key' hkey
    cases h
    exact hkey
  · cases h

theorem Invariant.served (h : Invariant settings jwt s) {now : ℚ}
    (hfresh : needsRefresh settings s.cache now kid = false)
    (hkey : known s.cache.keys kid = .ok key) : Served settings jwt s.log call kid key now := by
  have hlookup := known_eq_ok hkey
  have hcached := h.cached
  unfold Cached at hcached
  split at hcached
  · rw [hcached] at hlookup
    cases hlookup
  · rename_i loader fetch started hlatest
    obtain ⟨hload, htime⟩ := hcached
    refine ⟨loader, fetch, started, _, hlatest, hload, hlookup, Or.inr ?_⟩
    have hrecent : now - s.cache.loadedAt < settings.cacheSeconds := by
      unfold needsRefresh at hfresh
      rw [decide_eq_false_iff_not, not_or, not_le] at hfresh
      exact hfresh.1
    linarith

theorem Invariant.setCall (h : Invariant settings jwt s) (call : ℕ) {c : Call Key}
    (hc : ∀ kid cache first locked now started,
      c = .fetching kid cache first locked now started → now ≤ started) (holder : Option ℕ) :
    Invariant settings jwt { s.setCall call c with holder := holder } where
  cached := h.cached
  timed other kid cache first locked now started heq := by
    simp only [State.setCall, Function.update_apply] at heq
    split at heq
    · exact hc _ _ _ _ _ _ (Option.some.inj heq)
    · exact h.timed _ _ _ _ _ _ _ heq
  sound := h.sound

theorem Invariant.finish (h : Invariant settings jwt s) {last : ℚ} {result : Except Fault Key}
    (hserved : ∀ key, result = .ok key → Served settings jwt s.log call kid key last) :
    Invariant settings jwt (s.finish call kid last result) := by
  have hcall := h.setCall call (c := .ended) (fun _ _ _ _ _ _ heq => nomatch heq) s.holder
  cases result with
  | ok key => exact ⟨h.cached, hcall.timed, hserved key rfl, h.sound⟩
  | error fault => exact ⟨h.cached, hcall.timed, h.sound⟩

/-- **A step keeps the invariant.** -/
theorem Invariant.step (h : Invariant settings jwt s) (hs : step settings jwt s l = some s') :
    Invariant settings jwt s' := by
  cases moves_of_step hs with
  | waits hneeds =>
    refine h.setCall _ (fun _ _ _ _ _ _ heq => ?_) s.holder
    cases heq
  | hits hfresh => exact h.finish fun key hkey => h.served hfresh hkey
  | fetches hcall htime hneeds =>
    refine h.setCall _ (fun _ _ _ _ _ _ heq => ?_) (some _)
    cases heq
    exact htime
  | hitsLocked hcall hfresh => exact h.finish fun key hkey => h.served hfresh hkey
  | fails hcall hfault =>
    have hfree : Invariant settings jwt { s with holder := none } := ⟨h.cached, h.timed, h.sound⟩
    exact hfree.finish fun key => nofun
  | @loads call fetch kid cache first locked now started loaded hcall hload =>
    -- the new cache is what the last entry of the log has loaded
    have hloaded : Invariant settings jwt { s with
        cache := ⟨loaded, now⟩
        holder := none
        log := .refreshed call fetch started :: s.log } :=
      ⟨⟨hload, h.timed _ _ _ _ _ _ _ hcall⟩, h.timed, h.sound⟩
    refine hloaded.finish fun key hkey => ?_
    exact ⟨call, fetch, started, loaded, rfl, hload, known_eq_ok hkey, Or.inl rfl⟩
  | leaves =>
    refine h.setCall _ (fun _ _ _ _ _ _ heq => ?_) s.holder
    cases heq
  | releases =>
    refine h.setCall _ (fun _ _ _ _ _ _ heq => ?_) none
    cases heq

theorem Invariant.init (settings : OIDCSettings) (jwt : PyJWT Key) :
    Invariant settings jwt ({} : State Key) :=
  ⟨rfl, fun _ _ _ _ _ _ _ => nofun, trivial⟩

theorem Invariant.of_reachable (h : Reachable (OidcRefreshes.step settings jwt) {} s) :
    Invariant settings jwt s :=
  h.invariant (Invariant.init settings jwt) fun _ _ _ hinv _ hs => hinv.step hs

/-! ### Returned keys are recent -/

theorem cache_eq_or_loaded (hs : step settings jwt s l = some s') :
    s'.cache = s.cache ∨
      ∃ call fetch loaded, l = .fetched call fetch ∧ refresh jwt fetch = .ok loaded ∧
        s'.cache.keys = loaded := by
  cases moves_of_step hs with
  | waits hneeds => exact Or.inl rfl
  | hits hfresh => exact Or.inl rfl
  | fetches hcall htime hneeds => exact Or.inl rfl
  | hitsLocked hcall hfresh => exact Or.inl rfl
  | fails hcall hfault => exact Or.inl rfl
  | loads hcall hload => exact Or.inr ⟨_, _, _, rfl, hload, rfl⟩
  | leaves => exact Or.inl rfl
  | releases => exact Or.inl rfl

/-- **Returned keys are recent.**  After any interleaving of calls with any outcomes of their
fetches: a returned key is in a document that was loaded before, by the call itself or by a fetch
that started less than `cache_seconds` before the call's last look at the clock; only a fetch that
is loaded changes the cache; and a key that is not in a loaded document is returned after it only if
a later document contains it. -/
theorem keys_fresh (settings : OIDCSettings) (jwt : PyJWT Key) {s : State Key}
    (h : Reachable (step settings jwt) {} s) :
    (∀ later call kid key last earlier,
      s.log = later ++ .returned call kid key last :: earlier →
      ∃ call' fetch started loaded, .refreshed call' fetch started ∈ earlier ∧
        refresh jwt fetch = .ok loaded ∧ Contains jwt fetch kid key ∧
        (call' = call ∨ last - started < settings.cacheSeconds)) ∧
    (∀ l s', step settings jwt s l = some s' → s'.cache = s.cache ∨
      ∃ call fetch loaded, l = .fetched call fetch ∧ refresh jwt fetch = .ok loaded ∧
        s'.cache.keys = loaded) ∧
    ∀ later call kid key last middle call' fetch started earlier,
      s.log = later ++ .returned call kid key last ::
        (middle ++ .refreshed call' fetch started :: earlier) →
      ¬ Contains jwt fetch kid key →
      ∃ call'' fetch' started', .refreshed call'' fetch' started' ∈ middle ∧
        Contains jwt fetch' kid key := by
  have hsound := (Invariant.of_reachable h).sound
  refine ⟨?_, fun l s' hs => cache_eq_or_loaded hs, ?_⟩
  · intro later call kid key last earlier hlog
    rw [hlog] at hsound
    obtain ⟨call', fetch, started, loaded, hlatest, hload, hkey, hrecent⟩ := hsound.served
    exact ⟨call', fetch, started, loaded, mem_of_latest hlatest, hload,
      contains_of_refresh hload hkey, hrecent⟩
  · intro later call kid key last middle call' fetch started earlier hlog hnot
    rw [hlog] at hsound
    obtain ⟨_, fetch', _, loaded, hlatest, hload, hkey, -⟩ := hsound.served
    have hcontains := contains_of_refresh hload hkey
    rcases latest_append middle earlier call' fetch started with heq | ⟨c, f, t, hmem, heq⟩
    · rw [hlatest] at heq
      cases heq
      exact absurd hcontains hnot
    · rw [hlatest] at heq
      cases heq
      exact ⟨_, _, _, hmem, hcontains⟩

/-- The last call to end has returned this key at this time. -/
def lastReturned (call : ℕ) (kid key : String) (last : ℚ) (s : State String) : Bool :=
  match s.log with
  | .returned c k key' t :: _ => c = call ∧ k = kid ∧ key' = key ∧ t = last
  | _ => false

/-- Two calls wait for the lock; the second returns the key that the first has loaded. -/
theorem keys_fresh_waiting : ∃ s : State String, Reachable (step {} twoTokens) {} s ∧
    ∃ earlier, s.log = .returned 1 "test-key" "modulus" 1003 :: earlier ∧
      ∃ call fetch started loaded, .refreshed call fetch started ∈ earlier ∧
        refresh twoTokens fetch = .ok loaded ∧ Contains twoTokens fetch "test-key" "modulus" ∧
        (call = 1 ∨ 1003 - started < 300) := by
  obtain ⟨s, hs, hlast⟩ := exists_reachable_of_test (step {} twoTokens)
    [.begin 0 "test-key" 1000, .begin 1 "test-key" 1001, .lock 0 1002 1002,
      .fetched 0 firstCall.fetch, .lock 1 1003 1003]
    (a := {}) (p := lastReturned 1 "test-key" "modulus" 1003) (by decide +kernel)
  unfold lastReturned at hlast
  split at hlast
  · rename_i c k key t earlier hlog
    obtain ⟨rfl, rfl, rfl, rfl⟩ := of_decide_eq_true hlast
    exact ⟨s, hs, earlier, hlog, (keys_fresh {} twoTokens hs).1 [] 1 _ _ _ earlier hlog⟩
  · cases hlast

end OidcRefreshes
