/-
**The OIDC authentication of requests.**

`identity/oidc.py`: `OIDCAuthenticator.authenticate` reads the key identifier from the header of a
bearer token, finds the signing key among the cached keys of the issuer, refreshing them from its
JWKS endpoint where they are too old or do not have the identifier, has PyJWT check the token, and
reads tenant and roles from the claims.  It is meant to fail closed: a principal, or an
`AuthenticationError`.

PyJWT is a parameter: what it makes of a header, of a key document and of a token.  All that it
raises is a `PyJWTError`; `authenticate` catches the `InvalidTokenError` among them.  A call of
`_key` looks at the cache when it begins, and once more when it holds the lock; other calls may have
changed the cache in between, so both looks are arguments here.

Main definitions:

* `OidcAuthentication.loadKeys` — the keys of a JWKS document;
* `OidcAuthentication.key` — `_key`, as one call sees it;
* `OidcAuthentication.authenticate` — the authentication;
* `OidcAuthentication.FailClosed` — what it is meant to come to.

Main results:

* `OidcAuthentication.loadItems_eq_pyJWT_iff` — when an error of PyJWT leaves the loop over the keys;
* `OidcAuthentication.key_eq_ok_iff` — when a signing key is found;
* `OidcAuthentication.authenticate_failClosed_iff` — **when the authentication fails closed**.
-/

import FaultWitness.SafetyPaths
import Mathlib.Data.Finset.Dedup
import Mathlib.Data.Finset.Empty
import Mathlib.Data.Rat.Defs

set_option autoImplicit false

namespace OidcAuthentication

open Python

/-- The items of a mapping. -/
abbrev Fields := List (String × Json)

/-! ### Exceptions -/

/-- The classes below PyJWT's `PyJWTError`. -/
inductive PyJWTError
  | invalidTokenError
  | invalidKeyError
  | pyJWKError
deriving DecidableEq

/-- What `_key` raises. -/
inductive Fault
  | authentication (text : String)
  | httpError
  | valueError
  | typeError
  | pyJWT (err : PyJWTError)
deriving DecidableEq

/-- What leaves `authenticate`. -/
inductive Raised
  | authentication (text : String)
  | attributeError
  | pyJWT (err : PyJWTError)
deriving DecidableEq

/-! ### Settings and the library -/

/-- What is read of the settings. -/
structure OIDCSettings where
  tenantClaim : String := "tenant_id"
  cacheSeconds : ℚ := 300

/-- The claims of a token that PyJWT has accepted: the three required ones that are used have been
checked. -/
structure Claims where
  fields : Fields
  sub : String
  jti : String
  exp : ℤ

/-- PyJWT. -/
structure PyJWT (Key : Type) where
  getUnverifiedHeader : String → Except PyJWTError Fields
  fromDict : Fields → Except PyJWTError Key
  decode : String → Key → Except PyJWTError Claims

structure AuthenticatedPrincipal where
  tenantId : String
  userId : String
  roles : Finset String
  tokenId : String
  expiresAt : ℤ

/-! ### The keys of a JWKS document -/

section Keys

variable {Key : Type}

/-- The test `value in {None, allowed}`; a list or a mapping cannot be hashed. -/
def noneOr (allowed : String) (value : Option Json) : Except Fault Bool :=
  if TransitionKernel.hashable value then
    .ok (value = none ∨ value = some .null ∨ value = some (.str allowed))
  else .error .typeError

/-- The condition on a key document, read from left to right. -/
def usable (item : Fields) : Except Fault Bool := do
  match item.lookup "kid" with
  | some (.str _) =>
    if ← noneOr "sig" (item.lookup "use") then
      if ← noneOr "RS256" (item.lookup "alg") then
        return item.lookup "kty" = some (.str "RSA")
      else return false
    else return false
  | _ => return false

/-- The text under `kid` of a usable document. -/
def keyId (item : Fields) : String :=
  match item.lookup "kid" with
  | some (.str kid) => kid
  | _ => ""

/-- One round of the loop over the key documents; a later key stands before an earlier one. -/
def loadItem (jwt : PyJWT Key) (loaded : List (String × Key)) :
    Json → Except Fault (List (String × Key))
  | .obj item => do
    if ← usable item then
      match jwt.fromDict item with
      | .ok key => return (keyId item, key) :: loaded
      | .error err => throw (.pyJWT err)
    else return loaded
  | _ => return loaded

/-- The list under `keys`. -/
def keyItems (document : Json) : Option (List Json) :=
  match document with
  | .obj fields =>
    match fields.lookup "keys" with
    | some (.arr items) => some items
    | _ => none
  | _ => none

/-- The keys of a document. -/
def loadKeys (jwt : PyJWT Key) (document : Json) : Except Fault (List (String × Key)) :=
  match keyItems document with
  | some items => do
    let loaded ← items.foldlM (loadItem jwt) []
    if loaded.isEmpty then throw (.authentication "OIDC JWKS contains no usable keys")
    return loaded
  | none => .error (.authentication "OIDC JWKS is malformed")

/-! ### The signing key -/

/-- The cached keys, and when they were loaded. -/
structure Cache (Key : Type) where
  keys : List (String × Key) := []
  loadedAt : ℚ := 0

/-- What a request to the JWKS endpoint comes to. -/
inductive Fetch
  /-- No answer, or one with an error status. -/
  | failed
  /-- A body that is no JSON. -/
  | notJson
  | body (document : Json)

/-- The keys are too old, or do not have the identifier. -/
def needsRefresh (settings : OIDCSettings) (cache : Cache Key) (now : ℚ) (kid : String) : Bool :=
  settings.cacheSeconds ≤ now - cache.loadedAt ∨ (cache.keys.lookup kid).isNone

/-- What a fetch is loaded as. -/
def refresh (jwt : PyJWT Key) : Fetch → Except Fault (List (String × Key))
  | .failed => .error .httpError
  | .notJson => .error .valueError
  | .body document => loadKeys jwt document

/-- The key with an identifier. -/
def known (keys : List (String × Key)) (kid : String) : Except Fault Key :=
  match keys.lookup kid with
  | some key => .ok key
  | none => .error (.authentication "OIDC signing key is unknown")

/-- What one call of `_key` meets: the cache and the clock when it begins and when it holds the
lock, and what its own fetch comes to. -/
structure Meets (Key : Type) where
  cache : Cache Key
  now : ℚ
  lockedCache : Cache Key
  lockedNow : ℚ
  fetch : Fetch

/-- `_key`. -/
def key (settings : OIDCSettings) (jwt : PyJWT Key) (meets : Meets Key) (kid : String) :
    Except Fault Key :=
  if needsRefresh settings meets.cache meets.now kid then
    if needsRefresh settings meets.lockedCache meets.lockedNow kid then do
      let loaded ← refresh jwt meets.fetch
      known loaded kid
    else known meets.lockedCache.keys kid
  else known meets.cache.keys kid

/-! ### The authentication -/

/-- The token behind `"Bearer "`. -/
def bearerToken (authorization : Option String) : Except Raised String :=
  match authorization with
  | none => .error (.authentication "bearer token is required")
  | some text =>
    if "Bearer ".toList <+: text.toList then
      let token := String.ofList
        (((text.toList.drop 7).dropWhile (isBlank false)).reverse.dropWhile
          (isBlank false)).reverse
      if token = "" then .error (.authentication "bearer token is required") else .ok token
    else .error (.authentication "bearer token is required")

/-- The `except` clauses around the library: of PyJWT's errors only one class is named. -/
def caught : Fault → Raised
  | .authentication text => .authentication text
  | .pyJWT .invalidTokenError => .authentication "OIDC token validation failed"
  | .pyJWT err => .pyJWT err
  | _ => .authentication "OIDC token validation failed"

/-- The key identifier of a header that is supported. -/
def kidOf (header : Fields) : Option String :=
  if header.lookup "alg" = some (.str "RS256") then
    match header.lookup "kid" with
    | some (.str kid) => some kid
    | _ => none
  else none

/-- The body of the `try` block. -/
def verified (settings : OIDCSettings) (jwt : PyJWT Key) (meets : Meets Key) (token : String) :
    Except Fault Claims := do
  let header ← (jwt.getUnverifiedHeader token).mapError .pyJWT
  match kidOf header with
  | none => throw (.authentication "unsupported token header")
  | some kid => do
    let key ← key settings jwt meets kid
    (jwt.decode token key).mapError .pyJWT

/-- `(claims.get("realm_access") or {}).get("roles")`; only a mapping has a method `get`. -/
def realmRoles (claims : Fields) : Except Raised (Option Json) :=
  match claims.lookup "realm_access" with
  | none => .ok none
  | some (.obj access) => .ok (access.lookup "roles")
  | some access => if SafetyPaths.truthy access then .error .attributeError else .ok none

/-- The roles that count: texts that are not empty. -/
def normalizedRoles (items : List Json) : Finset String :=
  (items.filterMap fun
    | .str role => if role = "" then none else some role
    | _ => none).toFinset

/-- The principal that accepted claims describe. -/
def principalOf (settings : OIDCSettings) (claims : Claims) :
    Except Raised AuthenticatedPrincipal := do
  let roles ← realmRoles claims.fields
  match claims.fields.lookup settings.tenantClaim, roles with
  | some (.str tenantId), some (.arr items) =>
    if tenantId = "" then
      throw (.authentication "required tenant or role claims are absent")
    if normalizedRoles items = ∅ then
      throw (.authentication "required role claims are absent")
    return { tenantId, userId := claims.sub, roles := normalizedRoles items,
             tokenId := claims.jti, expiresAt := claims.exp }
  | _, _ => throw (.authentication "required tenant or role claims are absent")

/-- `OIDCAuthenticator.authenticate`. -/
def authenticate (settings : OIDCSettings) (jwt : PyJWT Key) (meets : Meets Key)
    (authorization : Option String) : Except Raised AuthenticatedPrincipal := do
  let token ← bearerToken authorization
  let claims ← (verified settings jwt meets token).mapError caught
  principalOf settings claims

/-- What the authentication of a token is meant to come to: a principal with a tenant and with
roles of the token, or an `AuthenticationError`. -/
def FailClosed (settings : OIDCSettings) (claims : Claims) :
    Except Raised AuthenticatedPrincipal → Prop
  | .ok principal =>
    principal.tenantId ≠ "" ∧
    claims.fields.lookup settings.tenantClaim = some (.str principal.tenantId) ∧
    principal.roles.Nonempty ∧
    ∃ access items, claims.fields.lookup "realm_access" = some (.obj access) ∧
      access.lookup "roles" = some (.arr items) ∧
      ∀ role ∈ principal.roles, role ≠ "" ∧ .str role ∈ items
  | .error (.authentication _) => True
  | .error .attributeError => False
  | .error (.pyJWT _) => False

/-! ### The claims -/

/-- A `realm_access` that can be asked for roles: none, one that counts as false, or a mapping. -/
def Readable (claims : Fields) : Prop :=
  ∀ access, claims.lookup "realm_access" = some access →
    SafetyPaths.truthy access = true → ∃ fields, access = .obj fields

variable {items : List Json}

theorem mem_normalizedRoles {role : String} :
    role ∈ normalizedRoles items ↔ role ≠ "" ∧ .str role ∈ items := by
  rw [normalizedRoles, List.mem_toFinset, List.mem_filterMap]
  constructor
  · rintro ⟨item, hitem, h⟩
    split at h
    · split at h
      · cases h
      · rename_i hne
        cases h
        exact ⟨hne, hitem⟩
    · cases h
  · rintro ⟨hne, hitem⟩
    exact ⟨_, hitem, by simp [hne]⟩

theorem realmRoles_eq_error_iff {claims : Fields} {err : Raised} :
    realmRoles claims = .error err ↔ err = .attributeError ∧ ¬ Readable claims := by
  unfold realmRoles Readable
  split
  · rename_i hnone
    simp [hnone]
  · rename_i fields hobj
    simp [hobj]
  · rename_i access hobj haccess
    rw [haccess]
    split
    · rename_i htruthy
      constructor
      · intro h
        cases h
        refine ⟨rfl, fun h => ?_⟩
        obtain ⟨fields, rfl⟩ := h access rfl htruthy
        exact hobj fields rfl
      · rintro ⟨rfl, -⟩
        rfl
    · rename_i hfalse
      refine ⟨nofun, fun h => absurd ?_ h.2⟩
      intro other hother htruthy
      cases hother
      exact absurd htruthy hfalse

theorem realmRoles_eq_some {claims : Fields} {roles : Json}
    (h : realmRoles claims = .ok (some roles)) :
    ∃ access, claims.lookup "realm_access" = some (.obj access) ∧
      access.lookup "roles" = some roles := by
  unfold realmRoles at h
  split at h
  · cases h
  · rename_i access haccess
    exact ⟨access, haccess, Except.ok.inj h⟩
  · split at h
    · cases h
    · cases h

/-- **Accepted claims fail closed exactly if their `realm_access` can be read.** -/
theorem principalOf_failClosed_iff (settings : OIDCSettings) (claims : Claims) :
    FailClosed settings claims (principalOf settings claims) ↔ Readable claims.fields := by
  unfold principalOf
  cases hroles : realmRoles claims.fields with
  | error err =>
    obtain ⟨rfl, hnot⟩ := realmRoles_eq_error_iff.1 hroles
    exact ⟨False.elim, hnot⟩
  | ok roles =>
    have hreadable : Readable claims.fields := by
      by_contra hnot
      rw [realmRoles_eq_error_iff.2 ⟨rfl, hnot⟩] at hroles
      cases hroles
    refine ⟨fun _ => hreadable, fun _ => ?_⟩
    simp only [bind, Except.bind]
    split
    · rename_i tenantId items htenant
      split
      · exact trivial
      · rename_i hne
        split
        · exact trivial
        · rename_i hsome
          obtain ⟨access, haccess, hitems⟩ := realmRoles_eq_some hroles
          exact ⟨hne, htenant, Finset.nonempty_iff_ne_empty.2 hsome, access, items, haccess,
            hitems, fun role hrole => mem_normalizedRoles.1 hrole⟩
    · exact trivial

/-! ### The key documents -/

/-- An item after which the loop goes on. -/
def Passes (jwt : PyJWT Key) : Json → Prop
  | .obj item => usable item = .ok false ∨ usable item = .ok true ∧ ∃ key, jwt.fromDict item = .ok key
  | _ => True

/-- Key documents on which PyJWT raises an error before anything else is raised. -/
def FirstMalformed (jwt : PyJWT Key) (items : List Json) (err : PyJWTError) : Prop :=
  ∃ before item after, items = before ++ .obj item :: after ∧ (∀ b ∈ before, Passes jwt b) ∧
    usable item = .ok true ∧ jwt.fromDict item = .error err

/-- A usable document with an identifier among items that all pass. -/
def Offers (jwt : PyJWT Key) (items : List Json) (kid : String) : Prop :=
  (∀ b ∈ items, Passes jwt b) ∧ ∃ item, .obj item ∈ items ∧ usable item = .ok true ∧ keyId item = kid

theorem noneOr_eq_error {allowed : String} {value : Option Json} {err : Fault}
    (h : noneOr allowed value = .error err) : err = .typeError := by
  unfold noneOr at h
  split at h
  · cases h
  · cases h
    rfl

theorem usable_eq_error {item : Fields} {err : Fault} (h : usable item = .error err) :
    err = .typeError := by
  unfold usable at h
  split at h
  · cases huse : noneOr "sig" (item.lookup "use") with
    | error fault =>
      rw [huse] at h
      cases h
      exact noneOr_eq_error huse
    | ok allowed =>
      rw [huse] at h
      cases allowed with
      | false => cases h
      | true =>
        cases halg : noneOr "RS256" (item.lookup "alg") with
        | error fault =>
          simp only [bind, Except.bind, if_true, halg] at h
          cases h
          exact noneOr_eq_error halg
        | ok allowed =>
          simp only [bind, Except.bind, if_true, halg] at h
          cases allowed with
          | false => cases h
          | true => cases h
  · cases h

theorem loadItem_obj (jwt : PyJWT Key) (loaded : List (String × Key)) (item : Fields) :
    loadItem jwt loaded (.obj item) =
      match usable item, jwt.fromDict item with
      | .error err, _ => .error err
      | .ok false, _ => .ok loaded
      | .ok true, .ok key => .ok ((keyId item, key) :: loaded)
      | .ok true, .error err => .error (.pyJWT err) := by
  simp only [loadItem]
  cases usable item with
  | error err => rfl
  | ok allowed =>
    cases allowed with
    | false => rfl
    | true =>
      cases jwt.fromDict item with
      | error err => rfl
      | ok key => rfl

variable {b : Json}

theorem loadItem_of_ne_obj (jwt : PyJWT Key) (loaded : List (String × Key))
    (h : ∀ item, b ≠ .obj item) : loadItem jwt loaded b = .ok loaded := by
  unfold loadItem
  split
  · exact absurd rfl (h _)
  · rfl

/-- A usable document gives a key under its identifier. -/
def Gives (jwt : PyJWT Key) (b : Json) (kid : String) (key : Key) : Prop :=
  ∃ item, b = .obj item ∧ usable item = .ok true ∧ keyId item = kid ∧ jwt.fromDict item = .ok key

variable {jwt : PyJWT Key} {loaded loaded' : List (String × Key)}

/-- A round that ends normally adds what its item gives. -/
theorem loadItem_eq_ok (h : loadItem jwt loaded b = .ok loaded') :
    Passes jwt b ∧ ∀ kid key, (kid, key) ∈ loaded' ↔ Gives jwt b kid key ∨ (kid, key) ∈ loaded := by
  by_cases hobj : ∃ item, b = .obj item
  · obtain ⟨item, rfl⟩ := hobj
    rw [loadItem_obj] at h
    split at h
    · cases h
    · rename_i hfalse
      cases h
      refine ⟨Or.inl hfalse, fun kid key => ⟨Or.inr, ?_⟩⟩
      rintro (⟨item', heq, htrue, -⟩ | hmem)
      · cases heq
        rw [hfalse] at htrue
        cases htrue
      · exact hmem
    · rename_i key htrue hkey
      cases h
      refine ⟨Or.inr ⟨htrue, key, hkey⟩, fun kid key' => ?_⟩
      rw [List.mem_cons]
      refine or_congr_left ⟨fun heq => ?_, ?_⟩
      · cases heq
        exact ⟨item, rfl, htrue, rfl, hkey⟩
      · rintro ⟨item', heq, -, hkid, hkey'⟩
        cases heq
        rw [hkey] at hkey'
        cases hkey'
        rw [hkid]
    · cases h
  · have hne : ∀ item, b ≠ .obj item := fun item heq => hobj ⟨item, heq⟩
    rw [loadItem_of_ne_obj jwt loaded hne] at h
    cases h
    refine ⟨?_, fun kid key => ⟨Or.inr, ?_⟩⟩
    · unfold Passes
      split
      · exact absurd rfl (hne _)
      · exact trivial
    · rintro (⟨item, heq, -⟩ | hmem)
      · exact absurd heq (hne item)
      · exact hmem

theorem passes_iff (loaded : List (String × Key)) :
    Passes jwt b ↔ ∃ loaded', loadItem jwt loaded b = .ok loaded' := by
  refine ⟨fun h => ?_, fun ⟨loaded', h⟩ => (loadItem_eq_ok h).1⟩
  by_cases hobj : ∃ item, b = .obj item
  · obtain ⟨item, rfl⟩ := hobj
    rcases h with hfalse | ⟨htrue, key, hkey⟩
    · exact ⟨loaded, by rw [loadItem_obj, hfalse]⟩
    · exact ⟨_, by rw [loadItem_obj, htrue, hkey]⟩
  · exact ⟨loaded, loadItem_of_ne_obj jwt loaded fun item heq => hobj ⟨item, heq⟩⟩

variable {err : PyJWTError}

/-- A round raises an error of PyJWT where a usable document is malformed. -/
theorem loadItem_eq_pyJWT_iff : loadItem jwt loaded b = .error (.pyJWT err) ↔
      ∃ item, b = .obj item ∧ usable item = .ok true ∧ jwt.fromDict item = .error err := by
  constructor
  · intro h
    by_cases hobj : ∃ item, b = .obj item
    · obtain ⟨item, rfl⟩ := hobj
      rw [loadItem_obj] at h
      split at h
      · rename_i fault hfault
        cases h
        cases usable_eq_error hfault
      · cases h
      · cases h
      · rename_i htrue hmalformed
        cases h
        exact ⟨item, rfl, htrue, hmalformed⟩
    · rw [loadItem_of_ne_obj jwt loaded fun item heq => hobj ⟨item, heq⟩] at h
      cases h
  · rintro ⟨item, rfl, htrue, hmalformed⟩
    rw [loadItem_obj, htrue, hmalformed]

/-- **The loop ends normally exactly when all items pass**, and has loaded what they give. -/
theorem loadItems_eq_ok (h : items.foldlM (loadItem jwt) loaded = .ok loaded') :
    (∀ b ∈ items, Passes jwt b) ∧
      ∀ kid key, (kid, key) ∈ loaded' ↔ (∃ b ∈ items, Gives jwt b kid key) ∨ (kid, key) ∈ loaded := by
  induction items generalizing loaded with
  | nil =>
    cases h
    simp
  | cons b items ih =>
    rw [List.foldlM_cons] at h
    obtain ⟨next, hnext, h⟩ := bind_eq_ok.1 h
    obtain ⟨hpass, hmem⟩ := loadItem_eq_ok hnext
    obtain ⟨hall, hrest⟩ := ih h
    refine ⟨List.forall_mem_cons.2 ⟨hpass, hall⟩, fun kid key => ?_⟩
    rw [hrest, hmem, List.exists_mem_cons_iff, or_left_comm, or_assoc]

theorem exists_loadItems (h : ∀ b ∈ items, Passes jwt b) (loaded : List (String × Key)) :
    ∃ loaded', items.foldlM (loadItem jwt) loaded = .ok loaded' := by
  induction items generalizing loaded with
  | nil => exact ⟨loaded, rfl⟩
  | cons b items ih =>
    obtain ⟨next, hnext⟩ := (passes_iff loaded).1 (h b List.mem_cons_self)
    obtain ⟨loaded', hrest⟩ := ih (fun c hc => h c (List.mem_cons_of_mem _ hc)) next
    rw [List.foldlM_cons]
    exact ⟨loaded', bind_eq_ok.2 ⟨next, hnext, hrest⟩⟩

/-- **An error of PyJWT leaves the loop where the first item that does not pass is malformed.** -/
theorem loadItems_eq_pyJWT_iff : items.foldlM (loadItem jwt) loaded = .error (.pyJWT err) ↔
      FirstMalformed jwt items err := by
  induction items generalizing loaded with
  | nil =>
    refine ⟨nofun, ?_⟩
    rintro ⟨before, item, after, h, -⟩
    exact absurd h (by simp)
  | cons b items ih =>
    rw [List.foldlM_cons]
    cases hb : loadItem jwt loaded b with
    | ok next =>
      have hpass := (loadItem_eq_ok hb).1
      refine ih.trans ⟨?_, ?_⟩
      · rintro ⟨before, item, after, rfl, hbefore, hitem⟩
        exact ⟨b :: before, item, after, rfl, List.forall_mem_cons.2 ⟨hpass, hbefore⟩, hitem⟩
      · rintro ⟨before, item, after, heq, hbefore, htrue, hmalformed⟩
        cases before with
        | nil =>
          cases heq
          rw [loadItem_eq_pyJWT_iff.2 ⟨item, rfl, htrue, hmalformed⟩] at hb
          cases hb
        | cons first before =>
          cases heq
          exact ⟨before, item, after, rfl, (List.forall_mem_cons.1 hbefore).2, htrue,
            hmalformed⟩
    | error fault =>
      constructor
      · intro h
        cases h
        obtain ⟨item, rfl, htrue, hmalformed⟩ := loadItem_eq_pyJWT_iff.1 hb
        exact ⟨[], item, items, rfl, by simp, htrue, hmalformed⟩
      · rintro ⟨before, item, after, heq, hbefore, htrue, hmalformed⟩
        cases before with
        | nil =>
          cases heq
          rw [loadItem_eq_pyJWT_iff.2 ⟨item, rfl, htrue, hmalformed⟩] at hb
          cases hb
          rfl
        | cons first before =>
          cases heq
          obtain ⟨next, hnext⟩ := (passes_iff loaded).1 (hbefore _ List.mem_cons_self)
          rw [hnext] at hb
          cases hb

variable {document : Json}

theorem loadKeys_eq_ok (h : loadKeys jwt document = .ok loaded) :
    ∃ items, keyItems document = some items ∧ (∀ b ∈ items, Passes jwt b) ∧
      ∀ kid key, (kid, key) ∈ loaded ↔ ∃ b ∈ items, Gives jwt b kid key := by
  unfold loadKeys at h
  split at h
  · rename_i items hitems
    obtain ⟨loaded', hloaded, h⟩ := bind_eq_ok.1 h
    obtain ⟨-, h⟩ := check_eq_ok.1 h
    cases h
    obtain ⟨hpass, hmem⟩ := loadItems_eq_ok hloaded
    refine ⟨items, hitems, hpass, fun kid key => (hmem kid key).trans (or_iff_left ?_)⟩
    exact List.not_mem_nil
  · cases h

theorem loadKeys_eq_pyJWT_iff :
    loadKeys jwt document = .error (.pyJWT err) ↔
      ∃ items, keyItems document = some items ∧ FirstMalformed jwt items err := by
  unfold loadKeys
  cases hitems : keyItems document with
  | none => exact ⟨nofun, fun ⟨items, h, _⟩ => nomatch h⟩
  | some items =>
    simp only [Option.some.injEq, exists_eq_left']
    rw [← loadItems_eq_pyJWT_iff]
    cases items.foldlM (loadItem jwt) [] with
    | error fault => simp [bind, Except.bind]
    | ok loaded =>
      refine ⟨fun h => ?_, nofun⟩
      simp only [bind, Except.bind] at h
      split at h
      · cases h
      · cases h

variable {kid : String}

/-- A document is loaded with an identifier exactly when it offers it. -/
theorem loadKeys_offers_iff :
    (∃ loaded, loadKeys jwt document = .ok loaded ∧ (loaded.lookup kid).isSome = true) ↔
      ∃ items, keyItems document = some items ∧ Offers jwt items kid := by
  constructor
  · rintro ⟨loaded, hloaded, hkid⟩
    obtain ⟨items, hitems, hpass, hmem⟩ := loadKeys_eq_ok hloaded
    obtain ⟨key, hkey⟩ := Option.isSome_iff_exists.1 hkid
    obtain ⟨b, hb, item, rfl, htrue, hid, -⟩ :=
      (hmem kid key).1 (TransitionKernel.mem_of_lookup hkey)
    exact ⟨items, hitems, hpass, item, hb, htrue, hid⟩
  · rintro ⟨items, hitems, hpass, item, hb, htrue, hid⟩
    obtain ⟨loaded, hloaded⟩ := exists_loadItems hpass []
    obtain ⟨key, hkey⟩ : ∃ key, jwt.fromDict item = .ok key := by
      rcases hpass _ hb with hfalse | ⟨-, hkey⟩
      · rw [hfalse] at htrue
        cases htrue
      · exact hkey
    have hmem : (kid, key) ∈ loaded :=
      ((loadItems_eq_ok hloaded).2 kid key).2 (Or.inl ⟨_, hb, item, rfl, htrue, hid, hkey⟩)
    refine ⟨loaded, ?_, List.lookup_isSome_iff.2 ⟨_, hmem, beq_self_eq_true kid⟩⟩
    unfold loadKeys
    rw [hitems]
    refine bind_eq_ok.2 ⟨loaded, hloaded, check_eq_ok.2 ⟨?_, rfl⟩⟩
    cases loaded with
    | nil => cases hmem
    | cons entry loaded => simp

/-! ### When a signing key is found -/

/-- A call refreshes the keys, and PyJWT raises an error on them before anything else is raised. -/
def Malformed (settings : OIDCSettings) (jwt : PyJWT Key) (meets : Meets Key) (kid : String)
    (err : PyJWTError) : Prop :=
  needsRefresh settings meets.cache meets.now kid = true ∧
    needsRefresh settings meets.lockedCache meets.lockedNow kid = true ∧
    ∃ document items, meets.fetch = .body document ∧ keyItems document = some items ∧
      FirstMalformed jwt items err

/-- The identifier is cached and the cache is not too old, or a refresh offers it. -/
def Found (settings : OIDCSettings) (jwt : PyJWT Key) (meets : Meets Key) (kid : String) : Prop :=
  needsRefresh settings meets.cache meets.now kid = false ∨
    needsRefresh settings meets.lockedCache meets.lockedNow kid = false ∨
    ∃ document items, meets.fetch = .body document ∧ keyItems document = some items ∧
      Offers jwt items kid

variable {keys : List (String × Key)}

theorem exists_known_iff : (∃ k, known keys kid = .ok k) ↔ (keys.lookup kid).isSome = true := by
  unfold known
  cases keys.lookup kid with
  | none => simp
  | some key => simp

theorem known_ne_pyJWT : known keys kid ≠ .error (.pyJWT err) := by
  unfold known
  split <;> simp

variable {settings : OIDCSettings}

theorem isSome_of_not_needsRefresh {cache : Cache Key} {now : ℚ}
    (h : needsRefresh settings cache now kid = false) : (cache.keys.lookup kid).isSome = true := by
  unfold needsRefresh at h
  rw [decide_eq_false_iff_not, not_or] at h
  simpa [Option.isSome_iff_ne_none] using h.2

variable {meets : Meets Key}

/-- **When a signing key is found.** -/
theorem key_eq_ok_iff :
    (∃ k, key settings jwt meets kid = .ok k) ↔ Found settings jwt meets kid := by
  unfold key Found
  cases hfirst : needsRefresh settings meets.cache meets.now kid with
  | false =>
    simp [exists_known_iff, isSome_of_not_needsRefresh hfirst]
  | true =>
    cases hsecond : needsRefresh settings meets.lockedCache meets.lockedNow kid with
    | false => simp [exists_known_iff, isSome_of_not_needsRefresh hsecond]
    | true =>
      simp only [if_true, bind_eq_ok, reduceCtorEq, false_or]
      cases hfetch : meets.fetch with
      | failed => simp [refresh]
      | notJson => simp [refresh]
      | body document =>
        simp only [refresh, Fetch.body.injEq]
        constructor
        · rintro ⟨k, loaded, hloaded, hk⟩
          obtain ⟨items, hitems, hoffers⟩ :=
            loadKeys_offers_iff.1 ⟨loaded, hloaded, exists_known_iff.1 ⟨k, hk⟩⟩
          exact ⟨document, items, rfl, hitems, hoffers⟩
        · rintro ⟨document, items, rfl, hitems, hoffers⟩
          obtain ⟨loaded, hloaded, hkid⟩ := loadKeys_offers_iff.2 ⟨items, hitems, hoffers⟩
          obtain ⟨k, hk⟩ := exists_known_iff.2 hkid
          exact ⟨k, loaded, hloaded, hk⟩

/-- **When an error of PyJWT leaves `_key`.** -/
theorem key_eq_pyJWT_iff : key settings jwt meets kid = .error (.pyJWT err) ↔
      Malformed settings jwt meets kid err := by
  unfold key Malformed
  cases needsRefresh settings meets.cache meets.now kid with
  | false => simp [known_ne_pyJWT]
  | true =>
    cases needsRefresh settings meets.lockedCache meets.lockedNow kid with
    | false => simp [known_ne_pyJWT]
    | true =>
      simp only [if_true, true_and]
      cases meets.fetch with
      | failed => simp [refresh, bind, Except.bind]
      | notJson => simp [refresh, bind, Except.bind]
      | body document =>
        simp only [refresh, Fetch.body.injEq]
        have hload : loadKeys jwt document = .error (.pyJWT err) ↔
            ∃ items, keyItems document = some items ∧ FirstMalformed jwt items err :=
          loadKeys_eq_pyJWT_iff
        cases hloaded : loadKeys jwt document with
        | error fault =>
          rw [hloaded] at hload
          constructor
          · intro h
            cases h
            obtain ⟨items, hitems, hfirst⟩ := hload.1 rfl
            exact ⟨document, items, rfl, hitems, hfirst⟩
          · rintro ⟨document, items, rfl, hitems, hfirst⟩
            cases hload.2 ⟨items, hitems, hfirst⟩
            rfl
        | ok loaded =>
          rw [hloaded] at hload
          constructor
          · intro h
            exact absurd h known_ne_pyJWT
          · rintro ⟨document, items, rfl, hitems, hfirst⟩
            cases hload.2 ⟨items, hitems, hfirst⟩

/-! ### Failing closed -/

/-- The authentication of a token whose header PyJWT reads. -/
theorem authenticate_eq {authorization : Option String} {token : String} {header : Fields}
    (htoken : bearerToken authorization = .ok token)
    (hheader : jwt.getUnverifiedHeader token = .ok header) :
    authenticate settings jwt meets authorization =
      match kidOf header with
      | none => .error (.authentication "unsupported token header")
      | some kid =>
        match key settings jwt meets kid with
        | .error fault => .error (caught fault)
        | .ok k =>
          match jwt.decode token k with
          | .error err => .error (caught (.pyJWT err))
          | .ok claims => principalOf settings claims := by
  unfold authenticate verified
  simp only [htoken, hheader, bind, Except.bind, Except.mapError]
  cases kidOf header with
  | none => rfl
  | some kid =>
    cases hkey : key settings jwt meets kid with
    | error fault => simp only [hkey]
    | ok k =>
      simp only [hkey]
      cases jwt.decode token k with
      | error err => rfl
      | ok claims => rfl

theorem caught_failClosed_iff {claims : Claims} {fault : Fault} :
    FailClosed settings claims (.error (caught fault)) ↔
      ∀ err, fault = .pyJWT err → err = .invalidTokenError := by
  cases fault with
  | pyJWT err => cases err <;> simp [caught, FailClosed]
  | authentication text => exact ⟨fun _ _ => nofun, fun _ => trivial⟩
  | httpError => exact ⟨fun _ _ => nofun, fun _ => trivial⟩
  | valueError => exact ⟨fun _ _ => nofun, fun _ => trivial⟩
  | typeError => exact ⟨fun _ _ => nofun, fun _ => trivial⟩

/-- **When the authentication fails closed.**  For a bearer token whose header PyJWT reads and which
it accepts under the signing key, the outcome is a principal with a tenant and with roles of the
token or an `AuthenticationError`, if and only if no error of PyJWT other than `InvalidTokenError`
leaves the key documents and, where the key is found, `realm_access` can be read. -/
theorem authenticate_failClosed_iff (settings : OIDCSettings) (jwt : PyJWT Key) (meets : Meets Key)
    {authorization : Option String} {token : String} {header : Fields} {claims : Claims}
    (htoken : bearerToken authorization = .ok token)
    (hheader : jwt.getUnverifiedHeader token = .ok header)
    (haccepts : ∀ kid, kidOf header = some kid → ∀ k, key settings jwt meets kid = .ok k →
      jwt.decode token k = .ok claims) :
    FailClosed settings claims (authenticate settings jwt meets authorization) ↔
      ∀ kid, kidOf header = some kid →
        (∀ err, Malformed settings jwt meets kid err → err = .invalidTokenError) ∧
          (Found settings jwt meets kid → Readable claims.fields) := by
  rw [authenticate_eq htoken hheader]
  cases hkid : kidOf header with
  | none => exact ⟨fun _ _ => nofun, fun _ => trivial⟩
  | some kid =>
    simp only [Option.some.injEq, forall_eq', ← key_eq_ok_iff, ← key_eq_pyJWT_iff]
    cases hkey : key settings jwt meets kid with
    | ok k =>
      simp only [haccepts kid hkid k hkey, principalOf_failClosed_iff]
      exact ⟨fun h => ⟨fun _ => nofun, fun _ => h⟩, fun h => h.2 ⟨k, rfl⟩⟩
    | error fault =>
      simp only [caught_failClosed_iff, Except.error.injEq]
      exact ⟨fun h => ⟨h, fun ⟨k, hk⟩ => nomatch hk⟩, fun h => h.1⟩

end Keys

/-! ### Two tokens -/

/-- Claims of a token with this `realm_access`. -/
def claimsWith (access : Json) : Claims where
  fields := [("sub", .str "user-1"), ("jti", .str "token-1"), ("tenant_id", .str "tenant-a"),
    ("realm_access", access)]
  sub := "user-1"
  jti := "token-1"
  exp := 60

def operatorClaims : Claims := claimsWith (.obj [("roles", .arr [.str "operator"])])

def adminClaims : Claims := claimsWith (.str "admin")

/-- A library for which a key is its modulus, with two tokens that are signed with it. -/
def twoTokens : PyJWT String where
  getUnverifiedHeader _ := .ok [("alg", .str "RS256"), ("kid", .str "test-key")]
  fromDict item :=
    match item.lookup "n" with
    | some (.str n) => .ok n
    | _ => .error .invalidKeyError
  decode token key :=
    if token = "operator." ++ key then .ok operatorClaims
    else if token = "admin." ++ key then .ok adminClaims
    else .error .invalidTokenError

/-- A first call, which fetches a key for encryption and one for signatures. -/
def firstCall : Meets String where
  cache := {}
  now := 1000
  lockedCache := {}
  lockedNow := 1000
  fetch := .body (.obj [("keys", .arr
    [.obj [("kid", .str "enc-key"), ("use", .str "enc"), ("kty", .str "RSA")],
      .obj [("kid", .str "test-key"), ("use", .str "sig"), ("alg", .str "RS256"),
        ("kty", .str "RSA"), ("n", .str "modulus")]])])

theorem twoTokens_read :
    bearerToken (some "Bearer operator.modulus") = .ok "operator.modulus" ∧
      bearerToken (some "Bearer admin.modulus") = .ok "admin.modulus" ∧
      key {} twoTokens firstCall "test-key" = .ok "modulus" ∧
      kidOf [("alg", .str "RS256"), ("kid", .str "test-key")] = some "test-key" ∧
      "operator.modulus" = "operator." ++ "modulus" ∧
      ¬ "admin.modulus" = "operator." ++ "modulus" ∧
      "admin.modulus" = "admin." ++ "modulus" := by
  decide +kernel

theorem key_firstCall : key {} twoTokens firstCall "test-key" = .ok "modulus" :=
  twoTokens_read.2.2.1

theorem decode_operator : twoTokens.decode "operator.modulus" "modulus" = .ok operatorClaims := by
  obtain ⟨_, _, _, _, hsigned, _, _⟩ := twoTokens_read
  simp only [twoTokens]
  rw [if_pos hsigned]

theorem decode_admin : twoTokens.decode "admin.modulus" "modulus" = .ok adminClaims := by
  obtain ⟨_, _, _, _, _, hother, hsigned⟩ := twoTokens_read
  simp only [twoTokens]
  rw [if_neg hother, if_pos hsigned]

theorem eq_of_kidOf {kid : String}
    (h : kidOf [("alg", .str "RS256"), ("kid", .str "test-key")] = some kid) :
    kid = "test-key" := by
  obtain ⟨_, _, _, hkid, _⟩ := twoTokens_read
  rw [hkid] at h
  exact (Option.some.inj h).symm

/-- An operator is authenticated. -/
theorem authenticate_failClosed_operator :
    FailClosed {} operatorClaims
      (authenticate {} twoTokens firstCall (some "Bearer operator.modulus")) := by
  refine (authenticate_failClosed_iff {} twoTokens firstCall twoTokens_read.1 rfl ?_).2 ?_
  · intro kid h k hk
    rw [eq_of_kidOf h, key_firstCall] at hk
    cases hk
    exact decode_operator
  · intro kid h
    rw [eq_of_kidOf h]
    refine ⟨fun err hmalformed => ?_, fun _ access haccess _ => ?_⟩
    · rw [← key_eq_pyJWT_iff, key_firstCall] at hmalformed
      cases hmalformed
    · have hlookup : operatorClaims.fields.lookup "realm_access" =
          some (.obj [("roles", .arr [.str "operator"])]) := rfl
      rw [hlookup] at haccess
      exact ⟨_, (Option.some.inj haccess).symm⟩

/-- A token whose `realm_access` is the text `"admin"` ends in an `AttributeError`. -/
theorem not_authenticate_failClosed : ¬ ∀ (Key : Type) (settings : OIDCSettings) (jwt : PyJWT Key)
    (meets : Meets Key) (authorization : Option String) (token : String) (header : Fields)
    (claims : Claims), bearerToken authorization = .ok token →
    jwt.getUnverifiedHeader token = .ok header →
    (∀ kid, kidOf header = some kid → ∀ k, key settings jwt meets kid = .ok k →
      jwt.decode token k = .ok claims) →
    FailClosed settings claims (authenticate settings jwt meets authorization) := by
  intro h
  obtain ⟨_, hbearer, _, hkid, _⟩ := twoTokens_read
  have hclosed := h String {} twoTokens firstCall (some "Bearer admin.modulus") _ _ adminClaims
    hbearer rfl (by
      intro kid hk k hkey
      rw [eq_of_kidOf hk, key_firstCall] at hkey
      cases hkey
      exact decode_admin)
  rw [authenticate_eq hbearer rfl] at hclosed
  simp only [hkid, key_firstCall, decode_admin] at hclosed
  rw [principalOf_failClosed_iff] at hclosed
  obtain ⟨fields, hfields⟩ := hclosed (.str "admin") rfl (by decide)
  cases hfields

end OidcAuthentication
