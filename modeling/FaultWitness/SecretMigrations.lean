/-
**Migrating and rotating the secrets.**

`migrate_handoff` of `faultwitness_dev/bootstrap.py` puts the secrets of a handoff into the encrypted store,
and `rotate_server_endpoint` points the store at another server.  A `GovernanceError` of either of them should
leave the store, the metadata and `known_hosts` as they are, so that the command can be given again.

A rotation decrypts what it has encrypted before it replaces the store, and from there on it raises no
`GovernanceError`.  A migration replaces the store first: if SOPS encrypts the bundle but does not decrypt
it, the store is there without its metadata, and the next migration refuses to overwrite it.

Main definitions:

* `SecretStore.migrateHandoff`, `SecretStore.rotateServerEndpoint` — the two commands;
* `SecretStore.migrationOf`, `SecretStore.rotationOf` — their steps before the first write;
* `SecretStore.migrated`, `SecretStore.rotated` — their steps from there on;
* `SecretStore.AllOrNothing` — a command changes nothing or does all that it should;
* `SecretStore.Encrypts` — a handoff whose bundle SOPS encrypts while nothing is stored yet;
* `SecretStore.Recoverable` — SOPS does not fail to decrypt such a ciphertext.

Main results:

* `SecretStore.run_migrated` — after its first write, a migration fails exactly if SOPS does;
* `SecretStore.spares_rotated` — after its first write, a rotation raises no `GovernanceError`;
* `SecretStore.all_or_nothing_iff` — **a command is all or nothing exactly if it is recoverable**;
* `SecretStore.not_all_or_nothing` — a migration that locks itself out.
-/

import FaultWitness.FlagDocuments
import FaultWitness.SecretStores
import FaultWitness.Transactions

set_option autoImplicit false

namespace SecretStore

open Python Bootstrap Transactions
open FlagDocuments (Document assign)

/-! ### Metadata -/

/-- A line break and the indentation of a level. -/
def newline (level : ℕ) : String := "\n" ++ String.ofList (List.replicate (2 * level) ' ')

/-- The items of a container, each on a line of its own. -/
def bracket (left right : String) (level : ℕ) (items : List String) : String :=
  if items = [] then left ++ right
  else left ++ newline (level + 1) ++ ("," ++ newline (level + 1)).intercalate items ++ newline level ++ right

mutual

/-- `json.dumps(value, indent=2)`, at a level of indentation. -/
def pretty (level : ℕ) : Json → String
  | .arr items => bracket "[" "]" level (prettyItems (level + 1) items)
  | .obj fields => bracket "\x7b" "\x7d" level (prettyFields (level + 1) fields)
  | .null => Json.dumps .null
  | .bool b => Json.dumps (.bool b)
  | .int n => Json.dumps (.int n)
  | .float repr => Json.dumps (.float repr)
  | .str s => Json.dumps (.str s)

def prettyItems (level : ℕ) : List Json → List String
  | [] => []
  | j :: js => pretty level j :: prettyItems level js

def prettyFields (level : ℕ) : List (String × Json) → List String
  | [] => []
  | (k, j) :: fs => (quote k ++ ": " ++ pretty level j) :: prettyFields level fs

end

/-- The metadata of a new store. -/
def migratedMetadata (now : String) : Json :=
  .obj [("schema_version", .str "1.0.0"),
    ("migrated_at", .str now),
    ("secret_names", .arr (requiredSecretNames.map Json.str)),
    ("encrypted_round_trip", .str "pass"),
    ("credential_policy", .str "operator_declared_long_lived"),
    ("credential_acceptance", .obj [
      ("server.password", .str "pending_operator_confirmation"),
      ("bailian.api_key", .str "pending_operator_confirmation"),
      ("langsmith.api_key", .str "pending_operator_confirmation")]),
    ("credential_verification", .obj [
      ("server.password", .str "pending_login"),
      ("bailian.api_key", .str "deferred_to_model_gateway_live"),
      ("langsmith.api_key", .str "deferred_to_trace_service_live")]),
    ("host_key_verified", .bool false),
    ("ssh_key_verified", .bool false),
    ("capability_reprobe_match", .bool false),
    ("handoff_deleted", .bool false)]

/-- The members of a value that has the methods of a dictionary. -/
def dictOf : Json → Except Raised Document
  | .obj fields => .ok fields
  | _ => .error .builtin

/-- The function `list`. -/
def listOf : Json → Except Raised (List Json)
  | .arr items => .ok items
  | .str s => .ok (s.toList.map fun c => .str (String.singleton c))
  | .obj fields => .ok (fields.map fun f => .str f.1)
  | _ => .error .builtin

/-- The rotations before, `[]` if there are none. -/
def rotationsOf (metadata : Document) : Except Raised (List Json) :=
  match metadata.lookup "server_endpoint_rotations" with
  | none => .ok []
  | some value => listOf value

/-- The member that `setdefault` finds or makes. -/
def verificationOf (metadata : Document) : Except Raised Document :=
  match metadata.lookup "credential_verification" with
  | none => .ok []
  | some value => dictOf value

section

variable (tools : Tools)

/-- The digest that stands for a server in the history of the rotations. -/
def serverDigest (host : String) (port : ℤ) : Json := .str (tools.sha256 (host ++ ":" ++ toString port))

/-- The metadata after a rotation, with the evidence on the old machine cleared. -/
def rotatedMetadata (previous : SecretBundle) (host : String) (port : ℤ) (reason now : String)
    (metadata : Document) : Except Raised Json := do
  let history ← rotationsOf metadata
  let rotation : Json := .obj [("rotated_at", .str now), ("reason", .str reason),
    ("previous_host_sha256", serverDigest tools previous.serverHost previous.serverPort),
    ("host_sha256", serverDigest tools host port)]
  let metadata := assign metadata "server_endpoint_rotations" (.arr (history ++ [rotation]))
  let metadata := assign metadata "host_key_verified" (.bool false)
  let metadata := assign metadata "ssh_key_verified" (.bool false)
  let metadata := assign metadata "capability_reprobe_match" (.bool false)
  let metadata := metadata.filter fun f => f.1 ≠ "host_key_verification_method"
  let verification ← verificationOf metadata
  return .obj (assign metadata "credential_verification"
    (.obj (assign verification "server.password" (.str "pending_login"))))

end

/-! ### Commands -/

abbrev Action (α : Type) := EStateM Raised Files α

def atomicWrite (path : Path) (content : String) : Action Unit :=
  modify fun files => Function.update files path (.text content)

/-- Removing a file that is there. -/
def unlink (path : Path) : Action Unit := do
  let files ← get
  check (files path = .directory) .builtin
  set (Function.update files path .missing)

def removeStale (path : Path) : Action Unit := do
  let files ← get
  if (files path).present then unlink path else pure ()

variable (builtins : Builtins) (tools : Tools) (programs : Programs)

/-- A migration up to its first write. -/
def migrationOf : Action (SecretBundle × String) := do
  let files ← get
  check (¬(files .handoff).isFile) (.governance "plaintext handoff file is missing")
  check ((files .encryptedStore).present ∨ (files .metadataFile).present)
    (.governance "bootstrap secret store already exists; refusing to overwrite it")
  let text ← result (readText (files .handoff))
  let bundle ← result (governed (parseHandoff builtins.casefold tools text))
  let recipient ← result (deriveAgeRecipient programs files)
  let ciphertext ← result (encryptBundle programs bundle recipient)
  return (bundle, ciphertext)

def migrated (now : String) (bundle : SecretBundle) (ciphertext : String) : Action Json := do
  atomicWrite .encryptedStore ciphertext
  let roundTrip ← result (decryptBundle builtins tools programs ciphertext)
  check (bundleFingerprint tools bundle ≠ bundleFingerprint tools roundTrip)
    (.governance "encrypted secret round-trip verification failed")
  atomicWrite .metadataFile (pretty 0 (migratedMetadata now) ++ "\n")
  return migratedMetadata now

def migrateHandoff (now : String) : Action Json := do
  let found ← migrationOf builtins tools programs
  migrated builtins tools programs now found.1 found.2

/-- A rotation up to its first write: the old metadata, the old bundle and the new ciphertext. -/
def rotationOf (endpoint : Endpoint) (password : String) : Action (Document × SecretBundle × String) := do
  let files ← get
  let document ← result (loadPrivateMetadata files)
  let metadata ← result (dictOf document)
  check (metadata.lookup "encrypted_round_trip" ≠ some (.str "pass"))
    (.governance "encrypted round-trip evidence must pass before rotation")
  let previous ← result (loadSecretBundle builtins tools programs files)
  let rotated := previous.rotate endpoint password
  result (governed (validateBundle tools rotated))
  let recipient ← result (deriveAgeRecipient programs files)
  let ciphertext ← result (encryptBundle programs rotated recipient)
  let roundTrip ← result (decryptBundle builtins tools programs ciphertext)
  check (bundleFingerprint tools rotated ≠ bundleFingerprint tools roundTrip)
    (.governance "rotated secret round-trip verification failed")
  return (metadata, previous, ciphertext)

def rotated (host : String) (port : ℤ) (reason now : String) (metadata : Document) (previous : SecretBundle)
    (ciphertext : String) : Action Json := do
  atomicWrite .encryptedStore ciphertext
  removeStale .knownHosts
  removeStale .candidate
  let metadata ← result (rotatedMetadata tools previous host port reason now metadata)
  atomicWrite .metadataFile (pretty 0 metadata ++ "\n")
  return metadata

def rotateServerEndpoint (host : String) (port : ℤ) (username password reason now : String) :
    Action Json := do
  let found ← rotationOf builtins tools programs ⟨host, port, username⟩ password
  rotated tools host port reason now found.1 found.2.1 found.2.2

inductive Command
  | migrateHandoff
  | rotateServerEndpoint (host : String) (port : ℤ) (username password reason : String)

def run (now : String) : Command → Action Json
  | .migrateHandoff => migrateHandoff builtins tools programs now
  | .rotateServerEndpoint host port username password reason =>
    rotateServerEndpoint builtins tools programs host port username password reason now

/-! ### All or nothing -/

def IsGovernance : Raised → Prop
  | .governance _ => True
  | .builtin => False

/-- The files that a failure has to leave alone. -/
def kept (files : Files) : Entry × Entry × Entry :=
  (files .encryptedStore, files .metadataFile, files .knownHosts)

/-- The bundle that a command is to store. -/
def Intended (files : Files) (bundle : SecretBundle) : Command → Prop
  | .migrateHandoff =>
    ∃ text, readText (files .handoff) = .ok text ∧ parseHandoff builtins.casefold tools text = .ok bundle
  | .rotateServerEndpoint host port username password _ =>
    ∃ previous, loadSecretBundle builtins tools programs files = .ok previous ∧
      bundle = ⟨host, port, username, password, previous.bailianApiKey, previous.langsmithApiKey⟩

/-- A `GovernanceError` leaves everything as it is, so that the command runs as if for the first time
whatever the programs answer then; and a normal return stores the bundle. -/
structure AllOrNothing (now : String) (command : Command) (files : Files) : Prop where
  unchanged : Atomic IsGovernance kept (run builtins tools programs now command) files
  again : ∀ e files', (run builtins tools programs now command).run files = .error e files' →
    IsGovernance e → ∀ later now', (run builtins tools later now' command).run files' =
      (run builtins tools later now' command).run files
  loaded : ∀ metadata files', (run builtins tools programs now command).run files = .ok metadata files' →
    ∃ bundle, Intended builtins tools programs files bundle command ∧
      loadSecretBundle builtins tools programs files' = .ok bundle

/-! ### Before the first write -/

variable {builtins} {tools} {programs}

theorem governed_eq_ok {α : Type} {x : Except String α} {a : α} : governed x = .ok a ↔ x = .ok a := by
  cases x with
  | error message => simp [governed, Except.mapError]
  | ok a' => simp [governed, Except.mapError]

theorem run_atomicWrite_bind {α : Type} (path : Path) (content : String) (f : Unit → Action α)
    (files : Files) : (atomicWrite path content >>= f).run files =
      (f ()).run (Function.update files path (.text content)) := rfl

theorem silent_migrationOf : Silent (migrationOf builtins tools programs) := by
  refine silent_get.bind fun files => ?_
  refine (silent_check _ _).bind fun _ => ?_
  refine (silent_check _ _).bind fun _ => ?_
  refine (silent_result _).bind fun text => ?_
  refine (silent_result _).bind fun bundle => ?_
  refine (silent_result _).bind fun recipient => ?_
  exact (silent_result _).bind fun ciphertext => silent_pure _

theorem silent_rotationOf (endpoint : Endpoint) (password : String) :
    Silent (rotationOf builtins tools programs endpoint password) := by
  refine silent_get.bind fun files => ?_
  refine (silent_result _).bind fun document => ?_
  refine (silent_result _).bind fun metadata => ?_
  refine (silent_check _ _).bind fun _ => ?_
  refine (silent_result _).bind fun previous => ?_
  refine (silent_result _).bind fun _ => ?_
  refine (silent_result _).bind fun recipient => ?_
  refine (silent_result _).bind fun ciphertext => ?_
  refine (silent_result _).bind fun roundTrip => ?_
  exact (silent_check _ _).bind fun _ => silent_pure _

/-- The handoff holds a bundle, nothing is stored yet, and SOPS makes a ciphertext of the bundle. -/
structure Encrypts (builtins : Builtins) (tools : Tools) (programs : Programs) (files : Files)
    (bundle : SecretBundle) (ciphertext : String) : Prop where
  handoff : (files .handoff).isFile = true
  store : (files .encryptedStore).present = false
  metadata : (files .metadataFile).present = false
  parsed : ∃ text, readText (files .handoff) = .ok text ∧
    parseHandoff builtins.casefold tools text = .ok bundle
  encrypted : ∃ recipient, deriveAgeRecipient programs files = .ok recipient ∧
    encryptBundle programs bundle recipient = .ok ciphertext

variable {files files' : Files} {ciphertext : String} {bundle : SecretBundle}

/-- What a migration has found when it first writes. -/
theorem migrationOf_eq_ok :
    (migrationOf builtins tools programs).run files = .ok (bundle, ciphertext) files' ↔
      files' = files ∧ Encrypts builtins tools programs files bundle ciphertext := by
  unfold migrationOf
  rw [run_get_bind]
  constructor
  · intro h
    obtain ⟨hfile, h⟩ := run_check_bind_eq_ok.1 h
    obtain ⟨hpresent, h⟩ := run_check_bind_eq_ok.1 h
    obtain ⟨text, htext, h⟩ := run_result_bind_eq_ok.1 h
    obtain ⟨parsed, hparsed, h⟩ := run_result_bind_eq_ok.1 h
    obtain ⟨recipient, hrecipient, h⟩ := run_result_bind_eq_ok.1 h
    obtain ⟨made, hmade, h⟩ := run_result_bind_eq_ok.1 h
    cases h
    rw [not_or, Bool.not_eq_true, Bool.not_eq_true] at hpresent
    exact ⟨rfl, not_not.1 hfile, hpresent.1, hpresent.2, ⟨text, htext, governed_eq_ok.1 hparsed⟩,
      recipient, hrecipient, hmade⟩
  · rintro ⟨rfl, h⟩
    obtain ⟨text, htext, hparsed⟩ := h.parsed
    obtain ⟨recipient, hrecipient, hmade⟩ := h.encrypted
    refine run_check_bind_eq_ok.2 ⟨not_not_intro h.handoff, ?_⟩
    refine run_check_bind_eq_ok.2 ⟨?_, ?_⟩
    · rw [not_or, Bool.not_eq_true, Bool.not_eq_true]
      exact ⟨h.store, h.metadata⟩
    · refine run_result_bind_eq_ok.2 ⟨text, htext, ?_⟩
      refine run_result_bind_eq_ok.2 ⟨bundle, governed_eq_ok.2 hparsed, ?_⟩
      refine run_result_bind_eq_ok.2 ⟨recipient, hrecipient, ?_⟩
      exact run_result_bind_eq_ok.2 ⟨ciphertext, hmade, rfl⟩

theorem Encrypts.valid (h : Encrypts builtins tools programs files bundle ciphertext) :
    validateBundle tools bundle = .ok () := by
  obtain ⟨text, -, hparsed⟩ := h.parsed
  exact validateBundle_of_parseHandoff hparsed

variable {previous : SecretBundle} {metadata : Document}

/-- What a rotation has found when it first writes. -/
theorem rotationOf_eq_ok {endpoint : Endpoint} {password : String}
    (h : (rotationOf builtins tools programs endpoint password).run files =
      .ok (metadata, previous, ciphertext) files') :
    loadSecretBundle builtins tools programs files = .ok previous ∧
      validateBundle tools (previous.rotate endpoint password) = .ok () ∧
      (∃ recipient, encryptBundle programs (previous.rotate endpoint password) recipient = .ok ciphertext) ∧
      ∃ roundTrip, decryptBundle builtins tools programs ciphertext = .ok roundTrip := by
  unfold rotationOf at h
  rw [run_get_bind] at h
  obtain ⟨document, -, h⟩ := run_result_bind_eq_ok.1 h
  obtain ⟨found, -, h⟩ := run_result_bind_eq_ok.1 h
  obtain ⟨-, h⟩ := run_check_bind_eq_ok.1 h
  obtain ⟨loaded, hloaded, h⟩ := run_result_bind_eq_ok.1 h
  obtain ⟨⟨⟩, hvalid, h⟩ := run_result_bind_eq_ok.1 h
  obtain ⟨recipient, -, h⟩ := run_result_bind_eq_ok.1 h
  obtain ⟨made, hmade, h⟩ := run_result_bind_eq_ok.1 h
  obtain ⟨roundTrip, hround, h⟩ := run_result_bind_eq_ok.1 h
  obtain ⟨-, h⟩ := run_check_bind_eq_ok.1 h
  cases h
  exact ⟨hloaded, governed_eq_ok.1 hvalid, ⟨recipient, hmade⟩, roundTrip, hround⟩

/-! ### Migrations -/

/-- SOPS does not exit with an error on a ciphertext. -/
def Decrypts (programs : Programs) (ciphertext : String) : Prop :=
  ∀ completed, programs.decrypt ciphertext = some completed → completed.returncode = 0

/-- SOPS does not fail to decrypt what it has made of the handoff; a rotation asks for nothing. -/
def Recoverable (builtins : Builtins) (tools : Tools) (programs : Programs) (files : Files) : Command → Prop
  | .migrateHandoff => ∀ bundle ciphertext,
      Encrypts builtins tools programs files bundle ciphertext → Decrypts programs ciphertext
  | .rotateServerEndpoint .. => True

/-- SOPS that can be run raises a `GovernanceError` only if it exits with an error. -/
theorem decrypts_iff (hfile : programs.sopsIsFile = true) :
    Decrypts programs ciphertext ↔
      ∀ e, runSops programs (programs.decrypt ciphertext) = .error e → ¬IsGovernance e := by
  unfold Decrypts runSops
  rw [if_neg (not_not_intro hfile)]
  cases programs.decrypt ciphertext with
  | none =>
    refine iff_of_true nofun ?_
    intro e he
    cases he
    exact id
  | some completed =>
    by_cases hcode : completed.returncode = 0
    · simp [hcode]
    · simp [hcode, IsGovernance]

section

variable {files : Files} {bundle : SecretBundle} {ciphertext : String}

theorem run_migrated (hinverse : Inverse programs)
    (h : Encrypts builtins tools programs files bundle ciphertext) (now : String) :
    (migrated builtins tools programs now bundle ciphertext).run files =
      match runSops programs (programs.decrypt ciphertext) with
      | .error e => .error e (Function.update files .encryptedStore (.text ciphertext))
      | .ok _ => .ok (migratedMetadata now)
          (Function.update (Function.update files .encryptedStore (.text ciphertext)) .metadataFile
            (.text (pretty 0 (migratedMetadata now) ++ "\n"))) := by
  obtain ⟨recipient, -, hciphertext⟩ := h.encrypted
  unfold migrated
  rw [run_atomicWrite_bind, decryptBundle_of_encrypted hinverse h.valid hciphertext]
  cases runSops programs (programs.decrypt ciphertext) with
  | error e => rfl
  | ok plaintext =>
    -- what came back is the bundle itself, so the fingerprints agree
    have hsame : ¬bundleFingerprint tools bundle ≠ bundleFingerprint tools bundle := not_not_intro rfl
    exact run_check_bind_of_not hsame _ _ _

/-- After its first write, a migration raises no `GovernanceError` exactly if SOPS decrypts. -/
theorem spares_migrated_iff (hinverse : Inverse programs)
    (h : Encrypts builtins tools programs files bundle ciphertext) (now : String) :
    Spares IsGovernance (migrated builtins tools programs now bundle ciphertext) files ↔
      Decrypts programs ciphertext := by
  obtain ⟨recipient, -, hciphertext⟩ := h.encrypted
  obtain ⟨-, hfile, -⟩ := encryptBundle_eq_ok.1 hciphertext
  have hrun := run_migrated hinverse h now
  rw [decrypts_iff hfile]
  constructor
  · intro hspares e he
    rw [he] at hrun
    exact hspares e _ hrun
  · intro hsops e files' he
    cases hanswer : runSops programs (programs.decrypt ciphertext) with
    | error e' =>
      rw [hanswer] at hrun
      rw [hrun] at he
      cases he
      exact hsops e hanswer
    | ok plaintext =>
      rw [hanswer] at hrun
      rw [hrun] at he
      cases he

/-- A migration that fails after its first write leaves a store where there was none. -/
theorem kept_migrated (hinverse : Inverse programs)
    (h : Encrypts builtins tools programs files bundle ciphertext) {now : String} {files' : Files} {e : Raised}
    (hrun : (migrated builtins tools programs now bundle ciphertext).run files = .error e files') :
    kept files' ≠ kept files := by
  rw [run_migrated hinverse h] at hrun
  cases hanswer : runSops programs (programs.decrypt ciphertext) with
  | ok plaintext =>
    rw [hanswer] at hrun
    cases hrun
  | error e' =>
    rw [hanswer] at hrun
    cases hrun
    intro hkept
    have hstore : Entry.text ciphertext = files .encryptedStore := congrArg Prod.fst hkept
    have hpresent := h.store
    rw [← hstore] at hpresent
    cases hpresent

end

/-- A migration changes nothing when it raises a `GovernanceError`, exactly if it is recoverable. -/
theorem atomic_migrateHandoff_iff (hinverse : Inverse programs) (now : String) (files : Files) :
    Atomic IsGovernance kept (migrateHandoff builtins tools programs now) files ↔
      Recoverable builtins tools programs files .migrateHandoff := by
  unfold migrateHandoff
  rw [silent_migrationOf.atomic_bind_iff, Prod.forall]
  refine forall₂_congr fun bundle ciphertext => ?_
  rw [migrationOf_eq_ok, eq_self, true_and]
  refine forall_congr' fun hfound => ?_
  rw [← spares_migrated_iff hinverse hfound now]
  exact atomic_iff_spares fun e files' => kept_migrated hinverse hfound

theorem atomic_id_migrateHandoff (hinverse : Inverse programs) (now : String)
    (h : Recoverable builtins tools programs files .migrateHandoff) :
    Atomic IsGovernance id (migrateHandoff builtins tools programs now) files := by
  unfold migrateHandoff
  rw [silent_migrationOf.atomic_bind_iff, Prod.forall]
  intro bundle ciphertext hrun
  obtain ⟨-, hfound⟩ := migrationOf_eq_ok.1 hrun
  exact ((spares_migrated_iff hinverse hfound now).2 (h bundle ciphertext hfound)).atomic

variable {now : String} {port : ℤ}

/-- A migration that returns has stored the bundle of the handoff. -/
theorem loaded_migrateHandoff (hinverse : Inverse programs) {metadata : Json}
    (h : (migrateHandoff builtins tools programs now).run files = .ok metadata files') :
    ∃ bundle, Intended builtins tools programs files bundle .migrateHandoff ∧
      loadSecretBundle builtins tools programs files' = .ok bundle := by
  unfold migrateHandoff at h
  obtain ⟨⟨bundle, ciphertext⟩, t, hfound, hrest⟩ := run_bind_eq_ok.1 h
  obtain ⟨rfl, hencrypts⟩ := migrationOf_eq_ok.1 hfound
  obtain ⟨recipient, -, hciphertext⟩ := hencrypts.encrypted
  refine ⟨bundle, hencrypts.parsed, ?_⟩
  rw [run_migrated hinverse hencrypts] at hrest
  cases hanswer : runSops programs (programs.decrypt ciphertext) with
  | error e =>
    rw [hanswer] at hrest
    cases hrest
  | ok plaintext =>
    rw [hanswer] at hrest
    cases hrest
    rw [loadSecretBundle_of_encrypted hciphertext, decryptBundle_of_encrypted hinverse hencrypts.valid hciphertext,
      hanswer]
    · rfl
    · rw [Function.update_of_ne (by decide), Function.update_self]

/-! ### Rotations -/

/-- The history and the verification of the metadata raise no `GovernanceError`. -/
theorem spares_rotatedMetadata {host reason : String} {e : Raised}
    (h : rotatedMetadata tools previous host port reason now metadata = .error e) :
    ¬IsGovernance e := by
  have hlist : ∀ value, listOf value = .error e → ¬IsGovernance e := by
    intro value hvalue
    cases value with
    | arr | str | obj => cases hvalue
    | null | bool | int | float =>
      cases hvalue
      exact id
  have hdict : ∀ value, dictOf value = .error e → ¬IsGovernance e := by
    intro value hvalue
    cases value with
    | obj => cases hvalue
    | null | bool | int | float | str | arr =>
      cases hvalue
      exact id
  unfold rotatedMetadata rotationsOf verificationOf at h
  rcases bind_eq_error.1 h with hhistory | ⟨history, -, h⟩
  · split at hhistory
    · cases hhistory
    · exact hlist _ hhistory
  · rcases bind_eq_error.1 h with hverification | ⟨verification, -, h⟩
    · split at hverification
      · cases hverification
      · exact hdict _ hverification
    · cases h

theorem removeStale_cases (path : Path) (files : Files) :
    (∃ entry, (removeStale path).run files = .ok () (Function.update files path entry)) ∨
      (removeStale path).run files = .error .builtin files := by
  unfold removeStale unlink
  rw [run_get_bind]
  by_cases hpresent : (files path).present = true
  · rw [if_pos hpresent, run_get_bind]
    by_cases hdirectory : files path = .directory
    · exact .inr (run_check_bind_of_pos hdirectory _ _ _)
    · exact .inl ⟨.missing, run_check_bind_of_not hdirectory _ _ _⟩
  · rw [if_neg hpresent]
    exact .inl ⟨files path, by rw [Function.update_eq_self]; rfl⟩

theorem spares_removeStale (path : Path) (files : Files) : Spares IsGovernance (removeStale path) files := by
  intro e files' he
  rcases removeStale_cases path files with ⟨entry, hok⟩ | herror
  · rw [hok] at he
    cases he
  · rw [herror] at he
    cases he
    exact id

theorem removeStale_encryptedStore {path : Path} (hpath : path ≠ .encryptedStore) {u : Unit}
    (h : (removeStale path).run files = .ok u files') :
    files' .encryptedStore = files .encryptedStore := by
  rcases removeStale_cases path files with ⟨entry, hok⟩ | herror
  · rw [hok] at h
    cases h
    rw [Function.update_of_ne hpath.symm]
  · rw [herror] at h
    cases h

theorem spares_rotated (host : String) (port : ℤ) (reason now : String) (metadata : Document)
    (previous : SecretBundle) (ciphertext : String) (files : Files) :
    Spares IsGovernance (rotated tools host port reason now metadata previous ciphertext) files := by
  refine Spares.bind (fun e files' he => by cases he) fun _ files₁ _ => ?_
  refine (spares_removeStale _ files₁).bind fun _ files₂ _ => ?_
  refine (spares_removeStale _ files₂).bind fun _ files₃ _ => ?_
  refine (spares_result fun e he => spares_rotatedMetadata he).bind fun metadata files₄ _ => ?_
  intro e files' he
  cases he

theorem encryptedStore_rotated {host reason : String} {document : Json}
    (h : (rotated tools host port reason now metadata previous ciphertext).run files = .ok document files') :
    files' .encryptedStore = .text ciphertext := by
  unfold rotated at h
  rw [run_atomicWrite_bind] at h
  obtain ⟨⟨⟩, files₂, hknown, h⟩ := run_bind_eq_ok.1 h
  obtain ⟨⟨⟩, files₃, hcandidate, h⟩ := run_bind_eq_ok.1 h
  obtain ⟨document', -, h⟩ := run_result_bind_eq_ok.1 h
  rw [run_atomicWrite_bind] at h
  cases h
  rw [Function.update_of_ne (by decide), removeStale_encryptedStore (by decide) hcandidate,
    removeStale_encryptedStore (by decide) hknown, Function.update_self]

theorem atomic_id_rotateServerEndpoint (host : String) (port : ℤ) (username password reason now : String)
    (files : Files) : Atomic IsGovernance id
      (rotateServerEndpoint builtins tools programs host port username password reason now) files := by
  unfold rotateServerEndpoint
  rw [(silent_rotationOf _ _).atomic_bind_iff]
  intro found _
  exact (spares_rotated host port reason now found.1 found.2.1 found.2.2 files).atomic

/-- A rotation that returns has stored the old API keys with the new server. -/
theorem loaded_rotateServerEndpoint (hinverse : Inverse programs)
    {host username password reason : String} {document : Json}
    (h : (rotateServerEndpoint builtins tools programs host port username password reason now).run files =
      .ok document files') :
    ∃ bundle, Intended builtins tools programs files bundle
        (.rotateServerEndpoint host port username password reason) ∧
      loadSecretBundle builtins tools programs files' = .ok bundle := by
  unfold rotateServerEndpoint at h
  obtain ⟨⟨metadata, previous, ciphertext⟩, t, hfound, hrest⟩ := run_bind_eq_ok.1 h
  obtain rfl := (silent_rotationOf _ _).eq_of_ok hfound
  obtain ⟨hprevious, hvalid, ⟨recipient, hciphertext⟩, roundTrip, hround⟩ := rotationOf_eq_ok hfound
  refine ⟨previous.rotate ⟨host, port, username⟩ password, ⟨previous, hprevious, rfl⟩, ?_⟩
  rw [loadSecretBundle_of_encrypted hciphertext (encryptedStore_rotated hrest)]
  -- the ciphertext was decrypted before it was written
  rw [decryptBundle_of_encrypted hinverse hvalid hciphertext] at hround ⊢
  cases hsops : runSops programs (programs.decrypt ciphertext) with
  | error e =>
    rw [hsops] at hround
    cases hround
  | ok plaintext => rfl

/-! ### Both commands -/

theorem atomic_id_run (hinverse : Inverse programs) (now : String) {command : Command}
    (h : Recoverable builtins tools programs files command) :
    Atomic IsGovernance id (run builtins tools programs now command) files := by
  cases command with
  | migrateHandoff => exact atomic_id_migrateHandoff hinverse now h
  | rotateServerEndpoint host port username password reason =>
    exact atomic_id_rotateServerEndpoint host port username password reason now files

theorem loaded_run (hinverse : Inverse programs) {command : Command} {metadata : Json}
    (h : (run builtins tools programs now command).run files = .ok metadata files') :
    ∃ bundle, Intended builtins tools programs files bundle command ∧
      loadSecretBundle builtins tools programs files' = .ok bundle := by
  cases command with
  | migrateHandoff => exact loaded_migrateHandoff hinverse h
  | rotateServerEndpoint host port username password reason => exact loaded_rotateServerEndpoint hinverse h

/-! ### A migration that locks itself out -/

def sampleBuiltins : Builtins where
  casefold c := [c.toLower]
  str _ := ""
  intOfFloat _ := .error .builtin

def sampleTools : Tools where
  decrypt _ := none
  isIpAddress host := host = "192.0.2.10"
  keyDigest _ := none
  sha256 text := text

/-- SOPS with a cipher that puts a mark in front of the document; whether it finds its key to decrypt. -/
def sops (decrypts : Bool) : Programs where
  sopsIsFile := true
  ageKeygenIsFile := true
  ageKeygen := some ⟨0, "age1sample"⟩
  encrypt _ plaintext := some ⟨0, String.ofList ('#' :: plaintext.toList)⟩
  decrypt ciphertext := if decrypts then some ⟨0, String.ofList ciphertext.toList.tail⟩ else some ⟨128, ""⟩

/-- What such SOPS makes of a bundle. -/
def sealed (bundle : SecretBundle) : String := String.ofList ('#' :: (plaintextOf bundle).toList)

theorem encryptBundle_sops (decrypts : Bool) {recipient : String}
    (hrecipient : isAgeRecipient recipient = true) (bundle : SecretBundle) :
    encryptBundle (sops decrypts) bundle recipient = .ok (sealed bundle) := by
  refine encryptBundle_eq_ok.2 ⟨hrecipient, rfl, _, rfl, rfl, universalNewlines_of_not_mem ?_⟩
  rw [List.mem_cons, not_or]
  exact ⟨by decide, not_mem_plaintextOf bundle⟩

theorem inverse_sops (decrypts : Bool) : Inverse (sops decrypts) := by
  intro bundle recipient encrypted decrypted hencrypt hcode hdecrypt hzero
  have hsealed : universalNewlines encrypted.stdout = sealed bundle := by
    cases hencrypt
    refine universalNewlines_of_not_mem ?_
    rw [List.mem_cons, not_or]
    exact ⟨by decide, not_mem_plaintextOf bundle⟩
  rw [hsealed] at hdecrypt
  cases decrypts with
  | false =>
    cases hdecrypt
    exact absurd hzero (by decide)
  | true =>
    cases hdecrypt
    rw [sealed, String.toList_ofList, List.tail_cons,
      universalNewlines_of_not_mem (not_mem_plaintextOf bundle), String.ofList_toList]

def sampleHandoff : String :=
  "服务器IP：192.0.2.10\n端口：22\n用户：operator\n密码：correct horse\n" ++
    "百炼key：sk-bailian-0123456789\nLangSmith：lsv2-0123456789-abcdef\n"

def sampleBundle : SecretBundle where
  serverHost := "192.0.2.10"
  serverPort := 22
  serverUsername := "operator"
  serverPassword := "correct horse"
  bailianApiKey := "sk-bailian-0123456789"
  langsmithApiKey := "lsv2-0123456789-abcdef"

/-- The files before the first migration. -/
def newFiles : Files
  | .handoff => .text sampleHandoff
  | .identityFile => .text "AGE-SECRET-KEY-1SAMPLE"
  | _ => .missing

theorem encrypts_sample (decrypts : Bool) :
    Encrypts sampleBuiltins sampleTools (sops decrypts) newFiles sampleBundle (sealed sampleBundle) := by
  have hparsed : parseHandoff sampleBuiltins.casefold sampleTools (universalNewlines sampleHandoff) =
      .ok sampleBundle := by decide +kernel
  have hrecipient : deriveAgeRecipient (sops decrypts) newFiles = .ok "age1sample" := by
    cases decrypts <;> decide +kernel
  exact ⟨rfl, rfl, rfl, ⟨_, rfl, hparsed⟩, _, hrecipient,
    encryptBundle_sops decrypts (by decide) sampleBundle⟩

/-- The files after a migration whose SOPS has encrypted but does not decrypt. -/
def wedgedFiles : Files := Function.update newFiles .encryptedStore (.text (sealed sampleBundle))

theorem run_migrateHandoff_sample (now : String) :
    (migrateHandoff sampleBuiltins sampleTools (sops false) now).run newFiles =
      .error (.governance "SOPS operation failed without emitting secret material") wedgedFiles := by
  have hencrypts := encrypts_sample false
  unfold migrateHandoff
  rw [run_bind_of_ok (migrationOf_eq_ok.2 ⟨rfl, hencrypts⟩),
    run_migrated (inverse_sops false) hencrypts]
  rfl

/-! ### The commands -/

/-- **A command is all or nothing exactly if it is recoverable.** -/
theorem all_or_nothing_iff (hinverse : Inverse programs) (now : String) (command : Command) (files : Files) :
    AllOrNothing builtins tools programs now command files ↔
      Recoverable builtins tools programs files command := by
  constructor
  · intro h
    cases command with
    | migrateHandoff => exact (atomic_migrateHandoff_iff hinverse now files).1 h.unchanged
    | rotateServerEndpoint host port username password reason => exact trivial
  · intro h
    have hatomic := atomic_id_run hinverse now h
    refine ⟨hatomic.of_id, ?_, fun metadata files' hok => loaded_run hinverse hok⟩
    intro e files' he hgovernance later now'
    rw [show files' = files from hatomic e files' he hgovernance]

/-- A migration and a rotation, with SOPS that decrypts. -/
theorem all_or_nothing_iff_sample :
    AllOrNothing sampleBuiltins sampleTools (sops true) "2026-08-01T00:00:00+00:00" .migrateHandoff newFiles ∧
      AllOrNothing sampleBuiltins sampleTools (sops true) "2026-08-02T00:00:00+00:00"
        (.rotateServerEndpoint "db8.example" 22 "operator" "battery staple" "host written off")
        (Function.update wedgedFiles .metadataFile
          (.text (pretty 0 (migratedMetadata "2026-08-01T00:00:00+00:00") ++ "\n"))) := by
  constructor
  · refine (all_or_nothing_iff (inverse_sops true) _ .migrateHandoff newFiles).2 ?_
    intro bundle ciphertext _ completed hdecrypt
    cases hdecrypt
    rfl
  · exact (all_or_nothing_iff (inverse_sops true) _ (.rotateServerEndpoint ..) _).2 trivial

/-- A migration whose SOPS cannot decrypt leaves a store behind, and every later migration is refused. -/
theorem not_all_or_nothing :
    Inverse (sops false) ∧
      ¬AllOrNothing sampleBuiltins sampleTools (sops false) "2026-08-01T00:00:00+00:00" .migrateHandoff
        newFiles ∧
      (run sampleBuiltins sampleTools (sops false) "2026-08-01T00:00:00+00:00" .migrateHandoff).run newFiles =
        .error (.governance "SOPS operation failed without emitting secret material") wedgedFiles ∧
      (run sampleBuiltins sampleTools (sops true) "2026-08-02T00:00:00+00:00" .migrateHandoff).run
          wedgedFiles =
        .error (.governance "bootstrap secret store already exists; refusing to overwrite it")
          wedgedFiles := by
  have hrun := run_migrateHandoff_sample "2026-08-01T00:00:00+00:00"
  refine ⟨inverse_sops false, fun h => ?_, hrun, ?_⟩
  · have hkept := congrArg Prod.fst (h.unchanged _ _ hrun trivial)
    simp only [kept, wedgedFiles, Function.update_self] at hkept
    cases hkept
  · have hfile : (wedgedFiles .handoff).isFile = true := rfl
    have hpresent : (wedgedFiles .encryptedStore).present = true := rfl
    have hrefused : (migrationOf sampleBuiltins sampleTools (sops true)).run wedgedFiles = .error
        (.governance "bootstrap secret store already exists; refusing to overwrite it") wedgedFiles := by
      unfold migrationOf
      rw [run_get_bind, run_check_bind_of_not (not_not_intro hfile)]
      exact run_check_bind_of_pos (Or.inl hpresent) _ _ _
    exact run_bind_eq_error.2 (.inl hrefused)

end SecretStore
