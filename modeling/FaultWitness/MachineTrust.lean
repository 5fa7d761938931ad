/-
**Trust in the machine.**

The part of `faultwitness_dev/bootstrap.py` that moves the secrets into the encrypted store, pins the key
of the host and installs the dedicated SSH key, and `_remote_arguments` of `faultwitness_dev/infra.py`,
which hands out the arguments of a connection while the metadata says that host and key are verified.

What is trusted is spread over three files.  Each call reads them, asks the tools and the host, and
replaces files one after the other; the process may stop between any two of these writes.  What the tools
and the host answer are arguments of a call.  The texts of files are lists of lines.  The login that the
metadata records is kept beside them: nothing reads it.

Main definitions:

* `Bootstrap.Call`, `Bootstrap.effect` — the calls and the writes that they make;
* `Bootstrap.step` — a call that makes its writes up to some number of them;
* `Bootstrap.remoteArguments` — the gate of the remote calls;
* `Bootstrap.Trusted` — the recorded login was made on the stored endpoint under the pinned key;
* `Bootstrap.careful` — the calls that keep it so.

Main results:

* `Bootstrap.kept_step` — what one call keeps;
* `Bootstrap.Kept.trusted_step` — a call keeps the trust exactly if it is careful;
* `Bootstrap.trusted_of_careful` — **no trust is inherited in a run of careful calls**;
* `Bootstrap.not_trusted` — another key can be pinned under an old login.
-/

import FaultWitness.Python
import FaultWitness.Runs

set_option autoImplicit false

namespace Bootstrap

open Python Runs

/-! ### Files -/

structure SecretBundle where
  serverHost : String
  serverPort : ℤ
  serverUsername : String
  serverPassword : String
  bailianApiKey : String
  langsmithApiKey : String
deriving DecidableEq

/-- Where and as whom a bundle logs in. -/
structure Endpoint where
  host : String
  port : ℤ
  username : String
deriving DecidableEq

def SecretBundle.endpoint (bundle : SecretBundle) : Endpoint :=
  ⟨bundle.serverHost, bundle.serverPort, bundle.serverUsername⟩

def SecretBundle.toDocument (bundle : SecretBundle) : Json :=
  .obj [("schema_version", .str "1.0.0"),
    ("server", .obj [("host", .str bundle.serverHost), ("port", .int bundle.serverPort),
      ("username", .str bundle.serverUsername), ("password", .str bundle.serverPassword)]),
    ("bailian", .obj [("api_key", .str bundle.bailianApiKey)]),
    ("langsmith", .obj [("api_key", .str bundle.langsmithApiKey)])]

/-- The part of the private metadata that the calls read and clear. -/
structure Metadata where
  secretNames : List String
  encryptedRoundTrip : String
  /-- The member `server.password` of `credential_verification`. -/
  passwordVerification : String
  hostKeyVerified : Bool
  hostKeyVerificationMethod : Option String
  sshKeyVerified : Bool
  capabilityReprobeMatch : Bool
deriving DecidableEq

/-- A login with the dedicated key: the endpoint and the lines of `known_hosts` it was made under. -/
structure Login where
  endpoint : Endpoint
  knownHosts : List String
deriving DecidableEq

structure State where
  encryptedStore : Option String := none
  metadata : Option Metadata := none
  knownHosts : Option (List String) := none
  candidate : Option (List String) := none
  /-- The login that was made when `ssh_key_verified` was last set. -/
  login : Option Login := none
deriving DecidableEq

/-- The change of one file. -/
inductive Write
  | encryptedStore (ciphertext : String)
  | knownHosts (lines : Option (List String))
  | candidate (lines : Option (List String))
  | metadata (m : Metadata)
  /-- The metadata with `ssh_key_verified` set after a login. -/
  | verified (m : Metadata) (login : Login)
  /-- A report that none of the calls reads. -/
  | report

def Write.apply (st : State) : Write → State
  | .encryptedStore ciphertext => { st with encryptedStore := some ciphertext }
  | .knownHosts lines => { st with knownHosts := lines }
  | .candidate lines => { st with candidate := lines }
  | .metadata m => { st with metadata := some m }
  | .verified m login => { st with metadata := some m, login := some login }
  | .report => st

/-! ### Checks -/

/-- What the calls take from tools: `decrypt_bundle` with the schema of the document, whose `none` is a
`GovernanceError`, `ipaddress.ip_address`, the digest of a key in base64, and SHA-256. -/
structure Tools where
  decrypt : String → Option SecretBundle
  isIpAddress : String → Bool
  keyDigest : String → Option String
  sha256 : String → String

def isAsciiAlnum (c : Char) : Bool := c.isAlphanum

/-- A label of a host name. -/
def isLabel (label : List Char) : Bool :=
  match label with
  | [] => false
  | c :: cs =>
    isAsciiAlnum c && (cs.getLast?.all isAsciiAlnum) &&
      cs.all (fun c => isAsciiAlnum c || c = '-') && label.length ≤ 63

def isSafeHostname (host : String) : Bool :=
  1 ≤ host.length && host.length ≤ 253 && (host.toList.splitOnP (· = '.')).all isLabel

def isSafeUsername (name : String) : Bool :=
  match name.toList with
  | [] => false
  | c :: cs =>
    (c.isAlpha || c = '_') && cs.length ≤ 63 &&
      cs.all fun c => isAsciiAlnum c || c = '_' || c = '.' || c = '-'

def isApiKey (value : String) : Bool := 20 ≤ value.length && !value.toList.any (isBlank false)

variable (tools : Tools)

/-- The first check of `validate_bundle` that fails. -/
def validateBundle (bundle : SecretBundle) : Except String Unit :=
  if ¬(tools.isIpAddress bundle.serverHost || isSafeHostname bundle.serverHost) then
    .error "server.host is not a valid IP address or hostname"
  else if ¬(1 ≤ bundle.serverPort ∧ bundle.serverPort ≤ 65535) then
    .error "server.port is outside the valid range"
  else if ¬isSafeUsername bundle.serverUsername then
    .error "server.username contains unsupported characters"
  else if bundle.serverPassword = "" ∨
      bundle.serverPassword.toList.any (fun c => c = '\r' || c = '\n' || c.toNat = 0) then
    .error "server.password is empty or contains a forbidden control character"
  else if ¬isApiKey bundle.bailianApiKey then
    .error "bailian.api_key does not meet the bootstrap shape policy"
  else if ¬isApiKey bundle.langsmithApiKey then
    .error "langsmith.api_key does not meet the bootstrap shape policy"
  else .ok ()

def bundleFingerprint (bundle : SecretBundle) : String := tools.sha256 bundle.toDocument.dumps

def loadPrivateMetadata (st : State) : Except String Metadata :=
  match st.metadata with
  | none => .error "private bootstrap metadata is missing"
  | some m => .ok m

def loadSecretBundle (st : State) : Except String SecretBundle :=
  match st.encryptedStore with
  | none => .error "encrypted secret store is missing"
  | some ciphertext =>
    match tools.decrypt ciphertext with
    | none => .error "SOPS operation failed without emitting secret material"
    | some bundle => .ok bundle

def requiredSecretNames : List String :=
  ["server.host", "server.port", "server.username", "server.password", "bailian.api_key",
    "langsmith.api_key"]

def validateMigration (st : State) : Except String Metadata := do
  let bundle ← loadSecretBundle tools st
  let m ← loadPrivateMetadata st
  if m.encryptedRoundTrip ≠ "pass" then throw "encrypted round-trip evidence is not passing"
  if ¬(m.secretNames ⊆ requiredSecretNames ∧ requiredSecretNames ⊆ m.secretNames) then
    throw "private metadata secret-name coverage drifted"
  validateBundle tools bundle
  return m

/-- `text.split()`. -/
def fields (line : String) : List String :=
  ((line.toList.splitOnP (isBlank false)).filter (· ≠ [])).map String.ofList

def hostKeyFingerprint (line : String) : Except String String :=
  match fields line with
  | _ :: kind :: key :: _ =>
    if kind ≠ "ssh-ed25519" then .error "host-key scan did not return one Ed25519 key"
    else
      match tools.keyDigest key with
      | none => .error "host-key scan returned invalid key data"
      | some digest => .ok ("SHA256:" ++ digest)
  | _ => .error "host-key scan did not return one Ed25519 key"

/-! ### Calls -/

/-- What a call does: the files that it writes, and how it ends. -/
structure Effect where
  writes : List Write := []
  result : Except String Unit := .ok ()

def Effect.raise (message : String) (writes : List Write := []) : Effect :=
  { writes := writes, result := .error message }

/-- The metadata of a new store. -/
def freshMetadata : Metadata where
  secretNames := requiredSecretNames
  encryptedRoundTrip := "pass"
  passwordVerification := "pending_login"
  hostKeyVerified := false
  hostKeyVerificationMethod := none
  sshKeyVerified := false
  capabilityReprobeMatch := false

/-- `migrate_handoff`, with what `parse_handoff` and `encrypt_bundle` come to. -/
def migrateHandoff (handoff : Option (Except String SecretBundle)) (encrypted : Except String String)
    (st : State) : Effect :=
  match handoff with
  | none => .raise "plaintext handoff file is missing"
  | some parsed =>
    if st.encryptedStore.isSome ∨ st.metadata.isSome then
      .raise "bootstrap secret store already exists; refusing to overwrite it"
    else
      match parsed, encrypted with
      | .error err, _ => .raise err
      | .ok _, .error err => .raise err
      | .ok bundle, .ok ciphertext =>
        match tools.decrypt ciphertext with
        | none =>
          .raise "SOPS operation failed without emitting secret material"
            [.encryptedStore ciphertext]
        | some roundTrip =>
          if bundleFingerprint tools bundle ≠ bundleFingerprint tools roundTrip then
            .raise "encrypted secret round-trip verification failed" [.encryptedStore ciphertext]
          else { writes := [.encryptedStore ciphertext, .metadata freshMetadata] }

/-- The bundle with another server. -/
def SecretBundle.rotate (previous : SecretBundle) (endpoint : Endpoint) (password : String) :
    SecretBundle :=
  { previous with
    serverHost := endpoint.host
    serverPort := endpoint.port
    serverUsername := endpoint.username
    serverPassword := password }

def Metadata.rotate (m : Metadata) : Metadata :=
  { m with
    hostKeyVerified := false
    sshKeyVerified := false
    capabilityReprobeMatch := false
    hostKeyVerificationMethod := none
    passwordVerification := "pending_login" }

/-- The checks of `rotate_server_endpoint` before its first write. -/
def rotationOf (endpoint : Endpoint) (password : String) (encrypted : Except String String)
    (st : State) : Except String (Metadata × String) := do
  let m ← loadPrivateMetadata st
  if m.encryptedRoundTrip ≠ "pass" then
    throw "encrypted round-trip evidence must pass before rotation"
  let previous ← loadSecretBundle tools st
  let rotated := previous.rotate endpoint password
  validateBundle tools rotated
  let ciphertext ← encrypted
  match tools.decrypt ciphertext with
  | none => throw "SOPS operation failed without emitting secret material"
  | some roundTrip =>
    if bundleFingerprint tools rotated ≠ bundleFingerprint tools roundTrip then
      throw "rotated secret round-trip verification failed"
    return (m, ciphertext)

/-- The files that are removed after the store was replaced. -/
def staleFiles (st : State) : List Write :=
  (if st.knownHosts.isSome then [.knownHosts none] else []) ++
    if st.candidate.isSome then [.candidate none] else []

def rotateServerEndpoint (endpoint : Endpoint) (password : String) (encrypted : Except String String)
    (st : State) : Effect :=
  match rotationOf tools endpoint password encrypted st with
  | .error err => .raise err
  | .ok (m, ciphertext) =>
    { writes := .encryptedStore ciphertext :: staleFiles st ++ [.metadata m.rotate] }

/-- `capture_host_key_candidate`, with the exit code and the lines of `ssh-keyscan`. -/
def captureHostKeyCandidate (returncode : ℤ) (stdout : List String) (st : State) : Effect :=
  match loadSecretBundle tools st with
  | .error err => .raise err
  | .ok _ =>
    match returncode, stdout.filter fun line => line ≠ "" && !("#".toList.isPrefixOf line.toList) with
    | 0, [line] =>
      match hostKeyFingerprint tools line with
      | .error err => .raise err
      | .ok _ => { writes := [.candidate (some [line])] }
    | _, _ => .raise "failed to capture exactly one server Ed25519 host key"

/-- The line of the candidate, if it has the fingerprint. -/
def candidateLine (expectedFingerprint : String) (st : State) : Except String String :=
  match st.candidate with
  | none => .error "host-key candidate is missing"
  | some lines =>
    match lines.filter (· ≠ "") with
    | [line] =>
      match hostKeyFingerprint tools line with
      | .error err => .error err
      | .ok actual =>
        if actual ≠ expectedFingerprint then
          .error "out-of-band host fingerprint does not match the scanned key"
        else .ok line
    | _ => .error "host-key candidate must contain exactly one key"

def acceptHostKeyCandidate (expectedFingerprint : String) (st : State) : Effect :=
  match candidateLine tools expectedFingerprint st with
  | .error err => .raise err
  | .ok line =>
    match loadPrivateMetadata st with
    | .error err => .raise err [.knownHosts (some [line])]
    | .ok m =>
      { writes := [.knownHosts (some [line]),
          .metadata { m with
            hostKeyVerified := true
            hostKeyVerificationMethod := some "operator_out_of_band" }] }

/-- What the host answers when the key is installed: the category of a failure of the login with the
password and of the installation, and whether the login with the key succeeds. -/
structure Answers where
  identity : Bool
  askpass : Bool
  preflight : Option String
  installation : Option String
  verification : Bool

def installAndVerifySshKey (answers : Answers) (st : State) : Effect :=
  match validateMigration tools st, loadSecretBundle tools st with
  | .error err, _ => .raise err
  | .ok _, .error err => .raise err
  | .ok m, .ok bundle =>
    match m.hostKeyVerified, st.knownHosts with
    | true, some lines =>
      if ¬answers.identity then .raise "project SSH identity is incomplete"
      else if ¬answers.askpass then .raise "SSH askpass helper is missing"
      else
        match answers.preflight, answers.installation with
        | some category, _ =>
          .raise ("password-authenticated SSH preflight failed (" ++ category ++ ")")
        | none, some category =>
          .raise ("public-key installation command failed (" ++ category ++ ")")
        | none, none =>
          if ¬answers.verification then .raise "dedicated SSH key verification failed"
          else
            { writes := [.verified
                { m with sshKeyVerified := true, passwordVerification := "verified_login" }
                ⟨bundle.endpoint, lines⟩] }
    | _, _ => .raise "host key must be verified out of band before authentication"

def acceptExistingCredentials (st : State) : Effect :=
  match loadSecretBundle tools st, loadPrivateMetadata st with
  | .error err, _ => .raise err
  | .ok _, .error err => .raise err
  | .ok _, .ok m =>
    if m.encryptedRoundTrip ≠ "pass" then
      .raise "encrypted round-trip evidence must pass before acceptance"
    else
      { writes := [.metadata { m with
          passwordVerification :=
            if m.sshKeyVerified then "verified_login" else "pending_login" }] }

/-- A sample of the probe: a failure on the host, a document that is refused, or a report. -/
inductive Sample
  | failed (category : String)
  | refused (message : String)
  | report (text : String)

def runCapabilityProbe (script : Bool) (first second : Sample) (st : State) : Effect :=
  match validateMigration tools st with
  | .error err => .raise err
  | .ok m =>
    if ¬(m.hostKeyVerified ∧ m.sshKeyVerified) then
      .raise "host pin and dedicated SSH key must pass before capability probes"
    else if ¬script then .raise "allowlisted host probe script is missing"
    else
      match first, second with
      | .failed category, _ | .report _, .failed category =>
        .raise ("allowlisted read-only host capability probe failed (" ++ category ++ ")") [.report]
      | .refused message, _ | .report _, .refused message => .raise message
      | .report text, .report text' =>
        if text ≠ text' then .raise "two normalized capability probes did not match"
        else { writes := [.report, .report, .metadata { m with capabilityReprobeMatch := true }] }

/-- The calls with what tools and host answer. -/
inductive Call
  | migrateHandoff (handoff : Option (Except String SecretBundle)) (encrypted : Except String String)
  | rotateServerEndpoint (endpoint : Endpoint) (password : String) (encrypted : Except String String)
  | captureHostKeyCandidate (returncode : ℤ) (stdout : List String)
  | acceptHostKeyCandidate (expectedFingerprint : String)
  | installAndVerifySshKey (answers : Answers)
  | acceptExistingCredentials
  | runCapabilityProbe (script : Bool) (first second : Sample)

def effect (st : State) : Call → Effect
  | .migrateHandoff handoff encrypted => Bootstrap.migrateHandoff tools handoff encrypted st
  | .rotateServerEndpoint endpoint password encrypted =>
    Bootstrap.rotateServerEndpoint tools endpoint password encrypted st
  | .captureHostKeyCandidate returncode stdout =>
    Bootstrap.captureHostKeyCandidate tools returncode stdout st
  | .acceptHostKeyCandidate fingerprint => Bootstrap.acceptHostKeyCandidate tools fingerprint st
  | .installAndVerifySshKey answers => Bootstrap.installAndVerifySshKey tools answers st
  | .acceptExistingCredentials => Bootstrap.acceptExistingCredentials tools st
  | .runCapabilityProbe script first second => Bootstrap.runCapabilityProbe tools script first second st

/-- The state after the first writes of a call. -/
def after (st : State) (writes : List Write) (made : ℕ) : State :=
  (writes.take made).foldl Write.apply st

/-- A call of which the first writes are made; it is complete if that is all of them. -/
def step (st : State) (label : Call × ℕ) : Option State :=
  some (after st (effect tools st label.1).writes label.2)

/-! ### The gate of the remote calls -/

/-- `_remote_arguments`, up to the arguments that it makes of the bundle. -/
def remoteArguments (st : State) : Except String SecretBundle := do
  let m ← loadPrivateMetadata st
  if ¬(m.hostKeyVerified ∧ m.sshKeyVerified) then
    throw "verified host pin and dedicated SSH key are required"
  loadSecretBundle tools st

/-- Where the gate opens, the recorded login was made on the stored endpoint and under the pinned key. -/
def Trusted (st : State) : Prop :=
  ∀ bundle, remoteArguments tools st = .ok bundle →
    ∃ lines, st.knownHosts = some lines ∧ st.login = some ⟨bundle.endpoint, lines⟩

/-! ### Careful calls -/

/-- The recorded login is one on the stored endpoint under the pinned key, whenever `ssh_key_verified` is
set. -/
def Kept (st : State) : Prop :=
  ∀ m, st.metadata = some m → m.sshKeyVerified = true → m.hostKeyVerified = true ∧
    ∃ ciphertext bundle lines, st.encryptedStore = some ciphertext ∧
      tools.decrypt ciphertext = some bundle ∧ st.knownHosts = some lines ∧
      st.login = some ⟨bundle.endpoint, lines⟩

def flagged (st : State) : Bool := st.metadata.any (·.sshKeyVerified)

/-- The endpoint that a ciphertext holds. -/
def endpointOf (ciphertext : String) : Option Endpoint :=
  (tools.decrypt ciphertext).map SecretBundle.endpoint

/-- The calls that never inherit trust.  While `ssh_key_verified` is set, no other key than the pinned one
is accepted, and a rotation is not stopped between its first and its last write, except before the first
removal if the endpoint stays the same. -/
def careful (st : State) : Call × ℕ → Bool
  | (.acceptHostKeyCandidate fingerprint, made) =>
    made = 0 || !flagged st ||
      match candidateLine tools fingerprint st with
      | .error _ => true
      | .ok line => st.knownHosts = some [line]
  | (.rotateServerEndpoint endpoint password encrypted, made) =>
    made = 0 || !flagged st ||
      match rotationOf tools endpoint password encrypted st with
      | .error _ => true
      | .ok (_, ciphertext) =>
        (staleFiles st).length + 2 ≤ made ||
          (made = 1 && st.encryptedStore.bind (endpointOf tools) = endpointOf tools ciphertext)
  | _ => true

variable {tools}

variable {st : State} {m : Metadata} {bundle : SecretBundle} {encrypted : Except String String}
  {endpoint : Endpoint} {ciphertext password : String}

theorem kept_of_not_flagged (h : flagged st = false) : Kept tools st := by
  intro m hm hflag
  rw [flagged, hm, Option.any_some, hflag] at h
  exact absurd h (by decide)

theorem loadPrivateMetadata_eq_ok : loadPrivateMetadata st = .ok m ↔ st.metadata = some m := by
  cases hm : st.metadata with
  | none => simp [loadPrivateMetadata, hm]
  | some m' => simp [loadPrivateMetadata, hm]

theorem loadSecretBundle_eq_ok :
    loadSecretBundle tools st = .ok bundle ↔
      ∃ ciphertext, st.encryptedStore = some ciphertext ∧ tools.decrypt ciphertext = some bundle := by
  cases hstore : st.encryptedStore with
  | none => simp [loadSecretBundle, hstore]
  | some ciphertext =>
    cases hdecrypt : tools.decrypt ciphertext with
    | none => simp [loadSecretBundle, hstore, hdecrypt]
    | some bundle' => simp [loadSecretBundle, hstore, hdecrypt]

theorem remoteArguments_eq_ok :
    remoteArguments tools st = .ok bundle ↔
      (∃ m, st.metadata = some m ∧ m.hostKeyVerified = true ∧ m.sshKeyVerified = true) ∧
        ∃ ciphertext, st.encryptedStore = some ciphertext ∧ tools.decrypt ciphertext = some bundle := by
  unfold remoteArguments
  simp only [bind_eq_ok, check_eq_ok, loadPrivateMetadata_eq_ok, loadSecretBundle_eq_ok, not_not]
  constructor
  · rintro ⟨m, hm, ⟨hhost, hssh⟩, hload⟩
    exact ⟨⟨m, hm, hhost, hssh⟩, hload⟩
  · rintro ⟨⟨m, hm, hhost, hssh⟩, hload⟩
    exact ⟨m, hm, ⟨hhost, hssh⟩, hload⟩

theorem Kept.trusted (h : Kept tools st) : Trusted tools st := by
  intro bundle hopen
  obtain ⟨⟨m, hm, -, hssh⟩, ciphertext, hstore, hdecrypt⟩ := remoteArguments_eq_ok.1 hopen
  obtain ⟨-, ciphertext', bundle', lines, hstore', hdecrypt', hlines, hlogin⟩ := h m hm hssh
  obtain rfl : ciphertext = ciphertext' := Option.some.inj (hstore.symm.trans hstore')
  obtain rfl : bundle = bundle' := Option.some.inj (hdecrypt.symm.trans hdecrypt')
  exact ⟨lines, hlines, hlogin⟩

/-- A rotation reads the metadata, and the ciphertext that it writes holds a bundle. -/
theorem rotationOf_eq_ok
    (h : rotationOf tools endpoint password encrypted st = .ok (m, ciphertext)) :
    st.metadata = some m ∧ ∃ bundle, tools.decrypt ciphertext = some bundle := by
  obtain ⟨m', hm, h⟩ := bind_eq_ok.1 h
  obtain ⟨-, h⟩ := check_eq_ok.1 h
  obtain ⟨previous, -, h⟩ := bind_eq_ok.1 h
  obtain ⟨-, -, h⟩ := bind_eq_ok.1 h
  obtain ⟨ciphertext', -, h⟩ := bind_eq_ok.1 h
  cases hdecrypt : tools.decrypt ciphertext' with
  | none =>
    rw [hdecrypt] at h
    exact absurd h nofun
  | some roundTrip =>
    rw [hdecrypt] at h
    obtain ⟨-, h⟩ := check_eq_ok.1 h
    cases h
    exact ⟨loadPrivateMetadata_eq_ok.1 hm, roundTrip, hdecrypt⟩

theorem validateMigration_eq_ok (h : validateMigration tools st = .ok m) :
    st.metadata = some m := by
  obtain ⟨bundle, -, h⟩ := bind_eq_ok.1 h
  obtain ⟨m', hm, h⟩ := bind_eq_ok.1 h
  obtain ⟨-, h⟩ := check_eq_ok.1 h
  obtain ⟨-, h⟩ := check_eq_ok.1 h
  obtain ⟨-, -, h⟩ := bind_eq_ok.1 h
  cases h
  exact loadPrivateMetadata_eq_ok.1 hm

/-! ### What the calls write -/

variable (tools)

/-- The first write of a migration meets no metadata, and the second one sets no flag. -/
theorem migrateHandoff_writes (handoff : Option (Except String SecretBundle))
    (encrypted : Except String String) (st : State) :
    (migrateHandoff tools handoff encrypted st).writes = [] ∨ st.metadata = none ∧
      ∃ ciphertext, (migrateHandoff tools handoff encrypted st).writes = [.encryptedStore ciphertext] ∨
        (migrateHandoff tools handoff encrypted st).writes =
          [.encryptedStore ciphertext, .metadata freshMetadata] := by
  unfold migrateHandoff
  split
  · exact Or.inl rfl
  · rename_i parsed
    by_cases hexists : st.encryptedStore.isSome ∨ st.metadata.isSome
    · rw [if_pos hexists]
      exact Or.inl rfl
    · rw [if_neg hexists]
      have hnone : st.metadata = none := by
        rw [← Option.not_isSome_iff_eq_none]
        exact fun hm => hexists (Or.inr hm)
      cases parsed with
      | error err => exact Or.inl rfl
      | ok bundle =>
        cases encrypted with
        | error err => exact Or.inl rfl
        | ok ciphertext =>
          refine Or.inr ⟨hnone, ciphertext, ?_⟩
          dsimp only
          split
          · exact Or.inl rfl
          · split
            · exact Or.inl rfl
            · exact Or.inr rfl

theorem rotateServerEndpoint_writes (endpoint : Endpoint) (password : String)
    (encrypted : Except String String) (st : State) :
    (∃ err, rotationOf tools endpoint password encrypted st = .error err) ∧
        (rotateServerEndpoint tools endpoint password encrypted st).writes = [] ∨
      ∃ m ciphertext, rotationOf tools endpoint password encrypted st = .ok (m, ciphertext) ∧
        (rotateServerEndpoint tools endpoint password encrypted st).writes =
          .encryptedStore ciphertext :: staleFiles st ++ [.metadata m.rotate] := by
  unfold rotateServerEndpoint
  split
  · rename_i err h
    exact Or.inl ⟨⟨err, h⟩, rfl⟩
  · rename_i m ciphertext h
    exact Or.inr ⟨m, ciphertext, h, rfl⟩

theorem captureHostKeyCandidate_writes (returncode : ℤ) (stdout : List String) (st : State) :
    (captureHostKeyCandidate tools returncode stdout st).writes = [] ∨
      ∃ line, (captureHostKeyCandidate tools returncode stdout st).writes = [.candidate (some [line])] := by
  unfold captureHostKeyCandidate
  split
  · exact Or.inl rfl
  · split
    · split
      · exact Or.inl rfl
      · exact Or.inr ⟨_, rfl⟩
    · exact Or.inl rfl

theorem acceptHostKeyCandidate_writes (fingerprint : String) (st : State) :
    (∃ err, candidateLine tools fingerprint st = .error err) ∧
        (acceptHostKeyCandidate tools fingerprint st).writes = [] ∨
      ∃ line, candidateLine tools fingerprint st = .ok line ∧
        (st.metadata = none ∧
            (acceptHostKeyCandidate tools fingerprint st).writes = [.knownHosts (some [line])] ∨
          ∃ m, st.metadata = some m ∧ (acceptHostKeyCandidate tools fingerprint st).writes =
            [.knownHosts (some [line]),
              .metadata { m with
                hostKeyVerified := true
                hostKeyVerificationMethod := some "operator_out_of_band" }]) := by
  unfold acceptHostKeyCandidate
  split
  · rename_i err hline
    exact Or.inl ⟨⟨err, hline⟩, rfl⟩
  · rename_i line hline
    refine Or.inr ⟨line, hline, ?_⟩
    cases hm : st.metadata with
    | none => exact Or.inl ⟨rfl, by simp only [loadPrivateMetadata, hm, Effect.raise]⟩
    | some m => exact Or.inr ⟨m, rfl, by simp only [loadPrivateMetadata, hm]⟩

/-- The key is verified by a login on the stored endpoint under the pinned key. -/
theorem installAndVerifySshKey_writes (answers : Answers) (st : State) :
    (installAndVerifySshKey tools answers st).writes = [] ∨
      ∃ (m : Metadata) (bundle : SecretBundle) (lines : List String),
        m.hostKeyVerified = true ∧ loadSecretBundle tools st = .ok bundle ∧
        st.knownHosts = some lines ∧ (installAndVerifySshKey tools answers st).writes =
          [.verified { m with sshKeyVerified := true, passwordVerification := "verified_login" }
            ⟨bundle.endpoint, lines⟩] := by
  unfold installAndVerifySshKey
  split
  · exact Or.inl rfl
  · exact Or.inl rfl
  · rename_i m bundle hmigration hload
    split
    · rename_i lines hhost hlines
      split
      · exact Or.inl rfl
      · split
        · exact Or.inl rfl
        · split
          · exact Or.inl rfl
          · exact Or.inl rfl
          · split
            · exact Or.inl rfl
            · exact Or.inr ⟨m, bundle, lines, hhost, hload, hlines, rfl⟩
    · exact Or.inl rfl

theorem acceptExistingCredentials_writes (st : State) :
    (acceptExistingCredentials tools st).writes = [] ∨
      ∃ m status, st.metadata = some m ∧ (acceptExistingCredentials tools st).writes =
        [.metadata { m with passwordVerification := status }] := by
  unfold acceptExistingCredentials
  split
  · exact Or.inl rfl
  · exact Or.inl rfl
  · rename_i m _ hm
    split
    · exact Or.inl rfl
    · exact Or.inr ⟨m, _, loadPrivateMetadata_eq_ok.1 hm, rfl⟩

theorem runCapabilityProbe_writes (script : Bool) (first second : Sample) (st : State) :
    (runCapabilityProbe tools script first second st).writes = [] ∨
      (runCapabilityProbe tools script first second st).writes = [.report] ∨
      ∃ m, st.metadata = some m ∧ (runCapabilityProbe tools script first second st).writes =
        [.report, .report, .metadata { m with capabilityReprobeMatch := true }] := by
  unfold runCapabilityProbe
  split
  · exact Or.inl rfl
  · rename_i m hm
    split
    · exact Or.inl rfl
    · split
      · exact Or.inl rfl
      · split
        · exact Or.inr (Or.inl rfl)
        · exact Or.inr (Or.inl rfl)
        · exact Or.inl rfl
        · exact Or.inl rfl
        · split
          · exact Or.inl rfl
          · exact Or.inr (Or.inr ⟨m, validateMigration_eq_ok hm, rfl⟩)

/-! ### What a call keeps -/

variable {tools}

variable {made : ℕ} {fingerprint : String} {label : Call × ℕ}

theorem after_nil (st : State) (made : ℕ) : after st [] made = st := by
  rw [after, List.take_nil, List.foldl_nil]

theorem after_cons (st : State) (w : Write) (writes : List Write) (made : ℕ) :
    after st (w :: writes) (made + 1) = after (w.apply st) writes made := rfl

theorem Kept.metadata (h : Kept tools st) {m' : Metadata} (hm : st.metadata = some m)
    (hhost : m.hostKeyVerified = true → m'.hostKeyVerified = true)
    (hssh : m'.sshKeyVerified = m.sshKeyVerified) : Kept tools { st with metadata := some m' } := by
  intro m'' hm'' hflag
  obtain rfl : m' = m'' := Option.some.inj hm''
  rw [hssh] at hflag
  obtain ⟨hhost', hlogin⟩ := h m hm hflag
  exact ⟨hhost hhost', hlogin⟩

theorem Kept.pinned (h : Kept tools st) (hflag : flagged st = true) :
    ∃ ciphertext bundle lines, st.encryptedStore = some ciphertext ∧
      tools.decrypt ciphertext = some bundle ∧ st.knownHosts = some lines ∧
      st.login = some ⟨bundle.endpoint, lines⟩ := by
  obtain ⟨m, hm, hssh⟩ := Option.any_eq_true _ _ |>.1 hflag
  exact (h m hm hssh).2

theorem flagged_of_none (h : st.metadata = none) : flagged st = false := by
  rw [flagged, h, Option.any_none]

theorem flagged_after (h : flagged st = false) {writes : List Write}
    (hwrites : ∀ w ∈ writes, ∀ st, flagged st = false → flagged (w.apply st) = false) (made : ℕ) :
    flagged (after st writes made) = false := by
  induction writes generalizing st made with
  | nil => rwa [after_nil]
  | cons w writes ih =>
    rcases made with - | made
    · exact h
    · rw [after_cons]
      exact ih (hwrites w List.mem_cons_self st h)
        (fun w' hw' => hwrites w' (List.mem_cons_of_mem _ hw')) made

theorem kept_migrateHandoff (h : Kept tools st) (handoff : Option (Except String SecretBundle))
    (encrypted : Except String String) (made : ℕ) :
    Kept tools (after st (migrateHandoff tools handoff encrypted st).writes made) := by
  rcases migrateHandoff_writes tools handoff encrypted st with
    hwrites | ⟨hnone, ciphertext, hwrites | hwrites⟩
  · rw [hwrites, after_nil]
    exact h
  · -- A machine without metadata has no flag, and neither have new metadata.
    refine kept_of_not_flagged (flagged_after (flagged_of_none hnone) ?_ made)
    rw [hwrites]
    intro w hw st' hst'
    obtain rfl := List.mem_singleton.1 hw
    exact hst'
  · refine kept_of_not_flagged (flagged_after (flagged_of_none hnone) ?_ made)
    rw [hwrites]
    intro w hw st' hst'
    rcases List.mem_pair.1 hw with rfl | rfl
    · exact hst'
    · rfl

theorem kept_acceptHostKeyCandidate (h : Kept tools st)
    (hcareful : careful tools st (.acceptHostKeyCandidate fingerprint, made) = true) :
    Kept tools (after st (acceptHostKeyCandidate tools fingerprint st).writes made) := by
  rcases acceptHostKeyCandidate_writes tools fingerprint st with
    ⟨-, hwrites⟩ | ⟨line, hline, ⟨hnone, hwrites⟩ | ⟨m, hm, hwrites⟩⟩
  · rw [hwrites, after_nil]
    exact h
  · refine kept_of_not_flagged (flagged_after (flagged_of_none hnone) ?_ made)
    rw [hwrites]
    intro w hw st' hst'
    obtain rfl := List.mem_singleton.1 hw
    exact hst'
  · rw [hwrites]
    rcases made with - | made
    · exact h
    · -- The new pin is either the old one, or there is no flag.
      have hpin : Kept tools { st with knownHosts := some [line] } := by
        simp only [careful, hline, Nat.succ_ne_zero, decide_false, Bool.false_or, Bool.or_eq_true,
          Bool.not_eq_true', decide_eq_true_eq] at hcareful
        rcases hcareful with hflag | hsame
        · exact kept_of_not_flagged hflag
        · rw [← hsame]
          exact h
      rcases made with - | made
      · exact hpin
      · rw [after_cons, after_cons, after_nil]
        exact hpin.metadata hm (fun _ => rfl) rfl

theorem kept_installAndVerifySshKey (h : Kept tools st) (answers : Answers) (made : ℕ) :
    Kept tools (after st (installAndVerifySshKey tools answers st).writes made) := by
  rcases installAndVerifySshKey_writes tools answers st with
    hwrites | ⟨m, bundle, lines, hhost, hload, hlines, hwrites⟩
  · rw [hwrites, after_nil]
    exact h
  · rw [hwrites]
    rcases made with - | made
    · exact h
    · rw [after_cons, after_nil]
      intro m' hm' _
      obtain ⟨ciphertext, hstore, hdecrypt⟩ := loadSecretBundle_eq_ok.1 hload
      obtain rfl := Option.some.inj hm'
      exact ⟨hhost, ciphertext, bundle, lines, hstore, hdecrypt, hlines, rfl⟩

theorem mem_rotation_writes {w : Write}
    (h : w ∈ .encryptedStore ciphertext :: staleFiles st ++ [.metadata m.rotate]) :
    w = .encryptedStore ciphertext ∨ w = .knownHosts none ∨ w = .candidate none ∨
      w = .metadata m.rotate := by
  simp only [staleFiles, List.mem_append, List.mem_cons, List.not_mem_nil, or_false] at h
  rcases h with (rfl | hstale | hstale) | rfl
  · exact Or.inl rfl
  · split at hstale
    · exact Or.inr (Or.inl (List.mem_singleton.1 hstale))
    · exact absurd hstale List.not_mem_nil
  · split at hstale
    · exact Or.inr (Or.inr (Or.inl (List.mem_singleton.1 hstale)))
    · exact absurd hstale List.not_mem_nil
  · exact Or.inr (Or.inr (Or.inr rfl))

theorem after_rotation (st : State) (m : Metadata) (ciphertext : String)
    (h : (staleFiles st).length + 2 ≤ made) :
    flagged (after st (.encryptedStore ciphertext :: staleFiles st ++ [.metadata m.rotate]) made) =
      false := by
  have hlength : (.encryptedStore ciphertext :: staleFiles st ++ [Write.metadata m.rotate]).length ≤
      made := by
    simp only [List.length_append, List.length_cons, List.length_nil]
    omega
  rw [after, List.take_of_length_le hlength, List.cons_append, List.foldl_cons, List.foldl_append]
  rfl

theorem kept_rotateServerEndpoint (h : Kept tools st)
    (hcareful : careful tools st (.rotateServerEndpoint endpoint password encrypted, made) = true) :
    Kept tools (after st (rotateServerEndpoint tools endpoint password encrypted st).writes made) := by
  rcases rotateServerEndpoint_writes tools endpoint password encrypted st with
    ⟨-, hwrites⟩ | ⟨m, ciphertext, hrotation, hwrites⟩
  · rw [hwrites, after_nil]
    exact h
  · rw [hwrites]
    cases hflag : flagged st with
    | false =>
      refine kept_of_not_flagged (flagged_after hflag ?_ made)
      intro w hw st' hst'
      rcases mem_rotation_writes hw with rfl | rfl | rfl | rfl
      · exact hst'
      · exact hst'
      · exact hst'
      · rfl
    | true =>
      simp only [careful, hflag, hrotation, Bool.not_true, Bool.or_false, Bool.or_eq_true,
        Bool.and_eq_true, decide_eq_true_eq] at hcareful
      rcases hcareful with rfl | hcomplete | ⟨rfl, hsame⟩
      · exact h
      · exact kept_of_not_flagged (after_rotation st m ciphertext hcomplete)
      · -- The store alone is replaced, by one with the same endpoint.
        obtain ⟨stored, bundle, lines, hstore, hdecrypt, hlines, hlogin⟩ := h.pinned hflag
        obtain ⟨hm, bundle', hdecrypt'⟩ := rotationOf_eq_ok hrotation
        simp only [hstore, Option.bind_some, endpointOf, hdecrypt, hdecrypt', Option.map_some,
          Option.some.injEq] at hsame
        intro m' hm' hssh
        refine ⟨(h m' hm' hssh).1, ciphertext, bundle', lines, rfl, hdecrypt', hlines, ?_⟩
        rw [← hsame]
        exact hlogin

theorem kept_captureHostKeyCandidate (h : Kept tools st) (returncode : ℤ) (stdout : List String)
    (made : ℕ) :
    Kept tools (after st (captureHostKeyCandidate tools returncode stdout st).writes made) := by
  rcases captureHostKeyCandidate_writes tools returncode stdout st with
    hwrites | ⟨line, hwrites⟩
  · rw [hwrites, after_nil]
    exact h
  · rw [hwrites]
    rcases made with - | made
    · exact h
    · rw [after_cons, after_nil]
      exact h

theorem kept_acceptExistingCredentials (h : Kept tools st) (made : ℕ) :
    Kept tools (after st (acceptExistingCredentials tools st).writes made) := by
  rcases acceptExistingCredentials_writes tools st with hwrites | ⟨m, status, hm, hwrites⟩
  · rw [hwrites, after_nil]
    exact h
  · rw [hwrites]
    rcases made with - | made
    · exact h
    · rw [after_cons, after_nil]
      exact h.metadata hm id rfl

theorem kept_runCapabilityProbe (h : Kept tools st) (script : Bool) (first second : Sample)
    (made : ℕ) :
    Kept tools (after st (runCapabilityProbe tools script first second st).writes made) := by
  rcases runCapabilityProbe_writes tools script first second st with
    hwrites | hwrites | ⟨m, hm, hwrites⟩
  · rw [hwrites, after_nil]
    exact h
  · rw [hwrites]
    rcases made with - | made
    · exact h
    · rw [after_cons, after_nil]
      exact h
  · rw [hwrites]
    rcases made with - | - | - | made
    · exact h
    · exact h
    · exact h
    · rw [after_cons, after_cons, after_cons, after_nil]
      exact h.metadata hm id rfl

/-- **What a careful call keeps**, however many of its writes are made. -/
theorem kept_step {st' : State} (h : Kept tools st) (hcareful : careful tools st label = true)
    (hstep : step tools st label = some st') : Kept tools st' := by
  obtain ⟨call, made⟩ := label
  obtain rfl := Option.some.inj hstep
  cases call with
  | migrateHandoff handoff encrypted => exact kept_migrateHandoff h handoff encrypted made
  | rotateServerEndpoint endpoint password encrypted => exact kept_rotateServerEndpoint h hcareful
  | captureHostKeyCandidate returncode stdout =>
    exact kept_captureHostKeyCandidate h returncode stdout made
  | acceptHostKeyCandidate fingerprint => exact kept_acceptHostKeyCandidate h hcareful
  | installAndVerifySshKey answers => exact kept_installAndVerifySshKey h answers made
  | acceptExistingCredentials => exact kept_acceptExistingCredentials h made
  | runCapabilityProbe script first second => exact kept_runCapabilityProbe h script first second made

/-! ### What a careless call loses -/

theorem Trusted.login_eq (h : Trusted tools st) (hm : st.metadata = some m)
    (hhost : m.hostKeyVerified = true) (hssh : m.sshKeyVerified = true)
    (hstore : st.encryptedStore = some ciphertext)
    (hdecrypt : tools.decrypt ciphertext = some bundle) :
    ∃ lines, st.knownHosts = some lines ∧ st.login = some ⟨bundle.endpoint, lines⟩ :=
  h bundle (remoteArguments_eq_ok.2 ⟨⟨m, hm, hhost, hssh⟩, ciphertext, hstore, hdecrypt⟩)

theorem not_trusted_acceptHostKeyCandidate (h : Kept tools st)
    (hcareless : careful tools st (.acceptHostKeyCandidate fingerprint, made) = false) :
    ¬Trusted tools (after st (acceptHostKeyCandidate tools fingerprint st).writes made) := by
  simp only [careful, Bool.or_eq_false_iff, decide_eq_false_iff_not, Bool.not_eq_false'] at hcareless
  obtain ⟨⟨hmade, hflag⟩, hline⟩ := hcareless
  obtain ⟨made, rfl⟩ := Nat.exists_eq_succ_of_ne_zero hmade
  obtain ⟨m, hm, hssh⟩ := Option.any_eq_true _ _ |>.1 hflag
  obtain ⟨hhost, ciphertext, bundle, lines, hstore, hdecrypt, hlines, hlogin⟩ := h m hm hssh
  intro htrusted
  rcases acceptHostKeyCandidate_writes tools fingerprint st with
    ⟨⟨err, herr⟩, -⟩ | ⟨line, hline', ⟨hnone, -⟩ | ⟨m', hm', hwrites⟩⟩
  · rw [herr] at hline
    cases hline
  · rw [hm] at hnone
    exact absurd hnone nofun
  · rw [hline', decide_eq_false_iff_not] at hline
    -- With both flags set, the pin would be the line and the login one under the old pin.
    have hpinned : ∃ lines', some [line] = some lines' ∧ st.login = some ⟨bundle.endpoint, lines'⟩ := by
      rw [hwrites] at htrusted
      rcases made with - | made
      · exact htrusted.login_eq hm hhost hssh hstore hdecrypt
      · rw [hm] at hm'
        obtain rfl := Option.some.inj hm'
        rw [after_cons, after_cons, after_nil] at htrusted
        exact htrusted.login_eq rfl rfl hssh hstore hdecrypt
    obtain ⟨lines', hlines', hlogin'⟩ := hpinned
    rw [hlogin, Option.some.injEq, Login.mk.injEq] at hlogin'
    rw [hlines, hlogin'.2] at hline
    exact hline hlines'.symm

theorem not_trusted_rotateServerEndpoint (h : Kept tools st)
    (hcareless : careful tools st (.rotateServerEndpoint endpoint password encrypted, made) = false) :
    ¬Trusted tools (after st (rotateServerEndpoint tools endpoint password encrypted st).writes made) := by
  simp only [careful, Bool.or_eq_false_iff, decide_eq_false_iff_not, Bool.not_eq_false'] at hcareless
  obtain ⟨⟨hmade, hflag⟩, hrotation⟩ := hcareless
  obtain ⟨made, rfl⟩ := Nat.exists_eq_succ_of_ne_zero hmade
  obtain ⟨m, hm, hssh⟩ := Option.any_eq_true _ _ |>.1 hflag
  obtain ⟨hhost, stored, bundle, lines, hstore, hdecrypt, hlines, hlogin⟩ := h m hm hssh
  intro htrusted
  rcases rotateServerEndpoint_writes tools endpoint password encrypted st with
    ⟨⟨err, herr⟩, -⟩ | ⟨m', ciphertext, hrotation', hwrites⟩
  · rw [herr] at hrotation
    cases hrotation
  · obtain ⟨hm', bundle', hdecrypt'⟩ := rotationOf_eq_ok hrotation'
    rw [hwrites] at htrusted
    simp only [hrotation', Bool.or_eq_false_iff, Bool.and_eq_false_iff, decide_eq_false_iff_not]
      at hrotation
    obtain ⟨hlength, hendpoint⟩ := hrotation
    have hstale : staleFiles st = .knownHosts none ::
        if st.candidate.isSome then [.candidate none] else [] := by
      rw [staleFiles, hlines]
      rfl
    rw [hstale] at htrusted hlength
    rcases made with - | made
    · -- Only the store is replaced, by one with another endpoint.
      obtain ⟨lines', hlogin'⟩ : ∃ lines', st.login = some ⟨bundle'.endpoint, lines'⟩ := by
        obtain ⟨lines', -, hlogin'⟩ := htrusted.login_eq hm hhost hssh rfl hdecrypt'
        exact ⟨lines', hlogin'⟩
      rw [hlogin, Option.some.injEq, Login.mk.injEq] at hlogin'
      rcases hendpoint with hone | hendpoint
      · exact hone rfl
      · refine hendpoint ?_
        rw [hstore, Option.bind_some, endpointOf, endpointOf, hdecrypt, hdecrypt', Option.map_some,
          Option.map_some, hlogin'.1]
    · -- The pin is removed, and the flags are still set.
      have hnone : ∃ lines' : List String, none = some lines' := by
        cases hcandidate : st.candidate.isSome with
        | false =>
          rw [hcandidate] at htrusted hlength
          obtain rfl : made = 0 := by
            simp only [Bool.false_eq_true, if_false, List.length_cons, List.length_nil] at hlength
            omega
          obtain ⟨lines', hlines', -⟩ := htrusted.login_eq hm hhost hssh rfl hdecrypt'
          exact ⟨lines', hlines'⟩
        | true =>
          rw [hcandidate] at htrusted hlength
          have hmade : made = 0 ∨ made = 1 := by
            simp only [if_true, List.length_cons, List.length_nil] at hlength
            omega
          rcases hmade with rfl | rfl
          · obtain ⟨lines', hlines', -⟩ := htrusted.login_eq hm hhost hssh rfl hdecrypt'
            exact ⟨lines', hlines'⟩
          · obtain ⟨lines', hlines', -⟩ := htrusted.login_eq hm hhost hssh rfl hdecrypt'
            exact ⟨lines', hlines'⟩
      exact absurd hnone nofun

/-- A call from a kept state keeps the trust exactly if it is careful. -/
theorem Kept.trusted_step {st' : State} (h : Kept tools st)
    (hstep : step tools st label = some st') :
    Trusted tools st' ↔ careful tools st label = true := by
  constructor
  · intro htrusted
    by_contra hcareless
    rw [Bool.not_eq_true] at hcareless
    obtain ⟨call, made⟩ := label
    obtain rfl := Option.some.inj hstep
    cases call with
    | rotateServerEndpoint endpoint password encrypted =>
      exact not_trusted_rotateServerEndpoint h hcareless htrusted
    | acceptHostKeyCandidate fingerprint =>
      exact not_trusted_acceptHostKeyCandidate h hcareless htrusted
    | migrateHandoff handoff encrypted => exact absurd hcareless nofun
    | captureHostKeyCandidate returncode stdout => exact absurd hcareless nofun
    | installAndVerifySshKey answers => exact absurd hcareless nofun
    | acceptExistingCredentials => exact absurd hcareless nofun
    | runCapabilityProbe script first second => exact absurd hcareless nofun
  · intro hcareful
    exact (kept_step h hcareful hstep).trusted

variable (tools)

/-- **No trust is inherited in a run of careful calls**, from any machine without metadata, and the first
careless call inherits it. -/
theorem trusted_of_careful {start st : State} (hfresh : start.metadata = none)
    (hrun : Reaches (step tools) (fun st label => careful tools st label = true) start st) :
    Trusted tools st ∧ ∀ (label : Call × ℕ) (st' : State), step tools st label = some st' →
      (Trusted tools st' ↔ careful tools st label = true) := by
  have hkept : Kept tools st := by
    refine hrun.invariant (kept_of_not_flagged (flagged_of_none hfresh)) ?_
    intro s label s' hs hcareful hstep
    exact kept_step hs hcareful hstep
  exact ⟨hkept.trusted, fun label st' hstep => hkept.trusted_step hstep⟩

/-! ### A pin that is replaced after the login -/

def soleBundle : SecretBundle where
  serverHost := "192.0.2.10"
  serverPort := 22
  serverUsername := "operator"
  serverPassword := "correct horse"
  bailianApiKey := "sk-bailian-0123456789"
  langsmithApiKey := "lsv2-0123456789-abcdef"

/-- Tools that know one ciphertext. -/
def soleTools : Tools where
  decrypt ciphertext := if ciphertext = "sops" then some soleBundle else none
  isIpAddress host := host = "192.0.2.10"
  keyDigest key := some key
  sha256 _ := "digest"

/-- A machine whose key is pinned and on which the dedicated key logs in. -/
def firstTrust : List (Call × ℕ) :=
  [(.migrateHandoff (some (.ok soleBundle)) (.ok "sops"), 2),
    (.captureHostKeyCandidate 0 ["192.0.2.10 ssh-ed25519 first"], 1),
    (.acceptHostKeyCandidate "SHA256:first", 2),
    (.installAndVerifySshKey ⟨true, true, none, none, true⟩, 1)]

/-- Another key of the host is captured and accepted. -/
def secondPin : List (Call × ℕ) :=
  firstTrust ++ [(.captureHostKeyCandidate 0 ["192.0.2.10 ssh-ed25519 second"], 1),
    (.acceptHostKeyCandidate "SHA256:second", 2)]

def gateOpens (st : State) : Bool :=
  match remoteArguments tools st with
  | .ok _ => true
  | .error _ => false

def movedBundle : SecretBundle :=
  { soleBundle with serverHost := "192.0.2.11", serverPassword := "battery staple" }

/-- Tools that also know the ciphertext of the bundle for another host. -/
def movingTools : Tools := { soleTools with
  decrypt := fun ciphertext =>
    if ciphertext = "sops" then some soleBundle
    else if ciphertext = "sops-moved" then some movedBundle
    else none
  isIpAddress := fun host => host = "192.0.2.10" || host = "192.0.2.11" }

/-- The move to the other host or back. -/
def moveTo (bundle : SecretBundle) (ciphertext : String) (made : ℕ) : Call × ℕ :=
  (.rotateServerEndpoint bundle.endpoint bundle.serverPassword (.ok ciphertext), made)

/-- After the first login the pinned key is accepted once more; then the machine moves, and the dedicated
key logs in under the key of the other host. -/
def secondTrust : List (Call × ℕ) :=
  firstTrust ++ [(.captureHostKeyCandidate 0 ["192.0.2.10 ssh-ed25519 first"], 1),
    (.acceptHostKeyCandidate "SHA256:first", 2), moveTo movedBundle "sops-moved" 4,
    (.captureHostKeyCandidate 0 ["192.0.2.11 ssh-ed25519 other"], 1),
    (.acceptHostKeyCandidate "SHA256:other", 2), (.installAndVerifySshKey ⟨true, true, none, none, true⟩, 1)]

/-- The gate opens after the move; a move back that stops after its first write would inherit the login. -/
theorem trusted_of_careful_moved :
    ∃ st st', st.encryptedStore = some "sops-moved" ∧ gateOpens movingTools st = true ∧
      Trusted movingTools st ∧ step movingTools st (moveTo soleBundle "sops" 1) = some st' ∧
      ¬Trusted movingTools st' := by
  obtain ⟨st, hrun, htest⟩ := exists_reaches_of_test (step movingTools)
    (C := fun st label => careful movingTools st label = true) (c := careful movingTools)
    (p := fun st => decide (st.encryptedStore = some "sops-moved" ∧ gateOpens movingTools st = true ∧
      careful movingTools st (moveTo soleBundle "sops" 1) = false)) (a := {}) (fun _ _ _ h => h)
    secondTrust (by decide +kernel)
  obtain ⟨hstore, hopens, hcareless⟩ := of_decide_eq_true htest
  -- the move back replaces the endpoint before it clears the flags
  obtain ⟨htrusted, hnext⟩ := trusted_of_careful movingTools rfl hrun
  refine ⟨st, _, hstore, hopens, htrusted, rfl, fun hinherited => ?_⟩
  rw [(hnext _ _ rfl).1 hinherited] at hcareless
  cases hcareless

/-- **Trust is inherited**: the gate stays open when another key is pinned than the one that the login was
made under. -/
theorem not_trusted :
    ¬∀ (tools : Tools) (start st : State), start.metadata = none → Reachable (step tools) start st →
      Trusted tools st := by
  intro h
  obtain ⟨st, hrun, hlost⟩ := exists_reachable_of_test (step soleTools)
    (p := fun st => gateOpens soleTools st && st.login.map Login.knownHosts ≠ st.knownHosts) (a := {})
    secondPin (by decide +kernel)
  rw [Bool.and_eq_true, decide_eq_true_eq] at hlost
  obtain ⟨hopens, hlost⟩ := hlost
  unfold gateOpens at hopens
  split at hopens
  · rename_i bundle hopen
    obtain ⟨lines, hlines, hlogin⟩ := h soleTools {} st rfl hrun bundle hopen
    rw [hlogin, hlines] at hlost
    exact hlost rfl
  · exact absurd hopens (by decide)

end Bootstrap
