/-
**The encrypted store of the secrets.**

How `faultwitness_dev/bootstrap.py` puts a bundle of secrets into the encrypted store and reads it back:
`derive_age_recipient`, `encrypt_bundle`, `decrypt_bundle`, `load_secret_bundle` and the private metadata.

SOPS and `age-keygen` are programs of which only the exit code and the output are seen; they may also fail to
run, and then Python raises.  An exception is a `GovernanceError` or one of Python's own.  What is written to
a file is read back with every line break as `\n`, and so is the output of a program.  A file that the
system refuses to write raises an exception of Python and is left as it is, so it is no case of its own; the
temporary files of `_atomic_write` are gone when a call ends.  What `str` prints for a value that is neither
a text nor an integer, and the integer that `int` makes of a float, are arguments; texts have no lone
surrogates, and a number with more than 4300 digits is refused like a text that is no JSON.

Main definitions:

* `SecretStore.Files`, `SecretStore.Programs` — the files, and what the programs answer;
* `SecretStore.fromDocument` — the bundle in a document, if it has the schema;
* `SecretStore.encryptBundle`, `SecretStore.decryptBundle` — the two ways through SOPS;
* `SecretStore.loadSecretBundle`, `SecretStore.loadPrivateMetadata` — reading the files;
* `SecretStore.Inverse` — SOPS decrypts what it has encrypted, when it does decrypt.

Main results:

* `SecretStore.loads_plaintextOf` — the plaintext of a bundle is read as its document;
* `SecretStore.decryptBundle_of_encrypted` — **what SOPS decrypts is the bundle that was encrypted**;
* `SecretStore.loadSecretBundle_of_encrypted` — and so it is behind a file.
-/

import FaultWitness.JsonCodec
import FaultWitness.HandoffParsing

set_option autoImplicit false

namespace SecretStore

open Python Bootstrap

/-! ### Files -/

inductive Raised
  /-- A `GovernanceError`. -/
  | governance (message : String)
  /-- Any other exception. -/
  | builtin
deriving DecidableEq

inductive Path
  | handoff
  | identityFile
  | encryptedStore
  | metadataFile
  | knownHosts
  /-- `known_hosts_file.with_suffix(".candidate")` -/
  | candidate
deriving DecidableEq

/-- What stands at a path. -/
inductive Entry
  | missing
  | directory
  /-- A file whose bytes are not UTF-8. -/
  | binary
  | text (content : String)
deriving DecidableEq

/-- The method `exists`. -/
def Entry.present : Entry → Bool
  | .missing => false
  | _ => true

def Entry.isFile : Entry → Bool
  | .binary | .text _ => true
  | _ => false

abbrev Files := Path → Entry

/-- A text with every line break as `\n`. -/
def universalFrom : List Char → List Char
  | '\r' :: '\n' :: cs => '\n' :: universalFrom cs
  | '\r' :: cs => '\n' :: universalFrom cs
  | c :: cs => c :: universalFrom cs
  | [] => []

def universalNewlines (text : String) : String := String.ofList (universalFrom text.toList)

def readText : Entry → Except Raised String
  | .text content => .ok (universalNewlines content)
  | _ => .error .builtin

/-- A computation whose exceptions are `GovernanceError`s. -/
def governed {α : Type} (x : Except String α) : Except Raised α := x.mapError .governance

/-! ### Programs -/

structure Completed where
  returncode : ℤ
  stdout : String
deriving DecidableEq

/-- What the programs answer, each with the identity file as it is; `none` if they cannot be run. -/
structure Programs where
  sopsIsFile : Bool
  ageKeygenIsFile : Bool
  /-- `age-keygen -y` -/
  ageKeygen : Option Completed
  /-- `sops encrypt` for a recipient. -/
  encrypt : (recipient plaintext : String) → Option Completed
  /-- `sops decrypt` -/
  decrypt : (ciphertext : String) → Option Completed

/-- What Python makes of characters and of values. -/
structure Builtins where
  casefold : Char → Text
  /-- `str` of a value that is neither a text nor an integer. -/
  str : Json → String
  /-- `int` of a float. -/
  intOfFloat : String → Except Raised ℤ

variable (builtins : Builtins) (tools : Tools) (programs : Programs)

/-- The pattern `AGE_RECIPIENT`. -/
def isAgeRecipient (text : String) : Bool :=
  match text.toList with
  | 'a' :: 'g' :: 'e' :: '1' :: c :: cs =>
    (c :: cs).all fun c => ('0' ≤ c && c ≤ '9') || ('a' ≤ c && c ≤ 'z')
  | _ => false

def deriveAgeRecipient (files : Files) : Except Raised String :=
  if ¬programs.ageKeygenIsFile ∨ ¬(files .identityFile).isFile then
    .error (.governance "pinned age-keygen or project Age identity is missing")
  else
    match programs.ageKeygen with
    | none => .error .builtin
    | some run =>
      let recipient := String.ofList (strip (universalNewlines run.stdout).toList)
      if run.returncode ≠ 0 ∨ ¬isAgeRecipient recipient then
        .error (.governance "failed to derive a valid Age recipient")
      else .ok recipient

/-- `_run_sops`, with what the program answers. -/
def runSops (run : Option Completed) : Except Raised String :=
  if ¬programs.sopsIsFile then .error (.governance "pinned SOPS executable is missing")
  else
    match run with
    | none => .error .builtin
    | some run =>
      if run.returncode ≠ 0 then
        .error (.governance "SOPS operation failed without emitting secret material")
      else .ok (universalNewlines run.stdout)

/-! ### Documents -/

def schemaError : Raised := .governance "secret document does not match the required schema"

/-- A member of an object. -/
def member (document : Json) (key : String) : Except Raised Json :=
  match document with
  | .obj fields =>
    match fields.lookup key with
    | some value => .ok value
    | none => .error schemaError
  | _ => .error schemaError

/-- The function `str`. -/
def strOf : Json → String
  | .str s => s
  | .int n => toString n
  | value => builtins.str value

/-- The function `int`. -/
def intOf : Json → Except Raised ℤ
  | .int n => .ok n
  | .bool b => .ok (if b then 1 else 0)
  | .str s =>
    match intParse s with
    | some n => .ok n
    | none => .error schemaError
  | .float repr => builtins.intOfFloat repr
  | _ => .error schemaError

def fromDocument (document : Json) : Except Raised SecretBundle := do
  let server ← member document "server"
  let host ← member server "host"
  let port ← member server "port"
  let port ← intOf builtins port
  let username ← member server "username"
  let password ← member server "password"
  let bailian ← member document "bailian"
  let bailianKey ← member bailian "api_key"
  let langsmith ← member document "langsmith"
  let langsmithKey ← member langsmith "api_key"
  let bundle : SecretBundle := {
    serverHost := strOf builtins host
    serverPort := port
    serverUsername := strOf builtins username
    serverPassword := strOf builtins password
    bailianApiKey := strOf builtins bailianKey
    langsmithApiKey := strOf builtins langsmithKey }
  governed (validateBundle tools bundle)
  return bundle

/-- What is encrypted: the document of a bundle, with `ensure_ascii=False`. -/
def plaintextOf (bundle : SecretBundle) : String := String.ofList (bundle.toDocument.textWith quoteRaw)

def encryptBundle (bundle : SecretBundle) (recipient : String) : Except Raised String :=
  if ¬isAgeRecipient recipient then .error (.governance "invalid Age recipient")
  else runSops programs (programs.encrypt recipient (plaintextOf bundle))

def decryptBundle (ciphertext : String) : Except Raised SecretBundle := do
  let plaintext ← runSops programs (programs.decrypt ciphertext)
  match Json.loads plaintext with
  | none => .error (.governance "decrypted secret document is not valid JSON")
  | some document => fromDocument builtins tools document

def loadSecretBundle (files : Files) : Except Raised SecretBundle := do
  if ¬(files .encryptedStore).isFile then throw (.governance "encrypted secret store is missing")
  let ciphertext ← readText (files .encryptedStore)
  decryptBundle builtins tools programs ciphertext

/-- The private metadata, which are read as a value of JSON. -/
def loadPrivateMetadata (files : Files) : Except Raised Json := do
  if ¬(files .metadataFile).isFile then throw (.governance "private bootstrap metadata is missing")
  let text ← readText (files .metadataFile)
  match Json.loads text with
  | none => .error (.governance "private bootstrap metadata is invalid")
  | some document => .ok document

/-! ### Line breaks -/

theorem universalFrom_cons {c : Char} (hc : c ≠ '\r') (cs : List Char) :
    universalFrom (c :: cs) = c :: universalFrom cs := by
  rw [universalFrom.eq_def]
  split
  · simp_all
  · simp_all
  · rename_i c' cs' hcons
    cases hcons
    rfl
  · simp_all

theorem not_mem_universalFrom (cs : List Char) : '\r' ∉ universalFrom cs := by
  fun_induction universalFrom cs with
  | case1 cs ih => simpa using ih
  | case2 cs _ ih => simpa using ih
  | case3 c cs hpair hreturn ih =>
    rw [List.mem_cons, not_or]
    exact ⟨fun hc => hreturn hc.symm, ih⟩
  | case4 => exact List.not_mem_nil

theorem universalFrom_of_not_mem {cs : List Char} (h : '\r' ∉ cs) : universalFrom cs = cs := by
  induction cs with
  | nil => rfl
  | cons c cs ih =>
    rw [List.mem_cons, not_or] at h
    rw [universalFrom_cons (Ne.symm h.1), ih h.2]

theorem universalNewlines_of_not_mem {cs : List Char} (h : '\r' ∉ cs) :
    universalNewlines (String.ofList cs) = String.ofList cs := by
  rw [universalNewlines, String.toList_ofList, universalFrom_of_not_mem h]

theorem universalNewlines_idem (text : String) :
    universalNewlines (universalNewlines text) = universalNewlines text := by
  exact universalNewlines_of_not_mem (not_mem_universalFrom _)

theorem not_mem_hex4 (n : ℕ) : '\r' ∉ (hex4 n).toList := by
  have hdigit : ∀ d, d < 16 → '\r' ≠ Nat.digitChar d := by decide
  rw [toList_hex4]
  simp only [List.mem_cons, List.not_mem_nil, or_false, not_or]
  exact ⟨hdigit _ (Nat.mod_lt _ (by decide)), hdigit _ (Nat.mod_lt _ (by decide)),
    hdigit _ (Nat.mod_lt _ (by decide)), hdigit _ (Nat.mod_lt _ (by decide))⟩

theorem not_mem_toString {c : Char} (h : 0x20 ≤ c.toNat) : '\r' ∉ c.toString.toList := by
  rw [Char.toString, String.toList_singleton, List.mem_singleton]
  rintro rfl
  exact absurd h (by decide)

theorem not_mem_escape (c : Char) : '\r' ∉ (escape c).toList := by
  unfold escape
  iterate 7
    split
    · decide
  split
  · rename_i hplain
    exact not_mem_toString hplain.1
  · split
    · rw [String.toList_append, List.mem_append, not_or]
      exact ⟨by decide, not_mem_hex4 _⟩
    · simp only [String.toList_append, List.mem_append, not_or]
      exact ⟨⟨⟨by decide, not_mem_hex4 _⟩, by decide⟩, not_mem_hex4 _⟩

theorem not_mem_quoteRaw (s : String) : '\r' ∉ (quoteRaw s).toList := by
  rw [toList_quoteRaw, List.mem_cons, List.mem_append, List.mem_flatMap, List.mem_singleton]
  rintro (hquote | ⟨c, -, hc⟩ | hquote)
  · exact absurd hquote (by decide)
  · unfold escapeRaw at hc
    split at hc
    · exact not_mem_escape c hc
    · rename_i hplain
      exact not_mem_toString (by omega) hc
  · exact absurd hquote (by decide)

theorem not_mem_plaintextOf (bundle : SecretBundle) : '\r' ∉ (plaintextOf bundle).toList := by
  have hport : '\r' ∉ (toString bundle.serverPort).toList := by
    intro hmem
    exact absurd (List.all_eq_true.1 (all_isNumeric_toString _) _ hmem) (by decide)
  rw [plaintextOf, String.toList_ofList]
  simp only [SecretBundle.toDocument, Json.textWith, Json.textFieldsWith, enclose, encloseTail, List.mem_cons,
    List.mem_append, not_mem_quoteRaw, hport]
  decide

/-! ### There and back -/

variable {builtins} {tools} {programs}

theorem runSops_eq_ok {run : Option Completed} {text : String} :
    runSops programs run = .ok text ↔ programs.sopsIsFile = true ∧
      ∃ completed, run = some completed ∧ completed.returncode = 0 ∧
        universalNewlines completed.stdout = text := by
  unfold runSops
  cases hfile : programs.sopsIsFile with
  | false => simp
  | true =>
    cases run with
    | none => simp
    | some completed =>
      by_cases hcode : completed.returncode = 0
      · simp [hcode]
      · simp [hcode]

/-- SOPS decrypts the document of a bundle from what it has made of it, when it does decrypt. -/
def Inverse (programs : Programs) : Prop :=
  ∀ bundle recipient encrypted decrypted,
    programs.encrypt recipient (plaintextOf bundle) = some encrypted → encrypted.returncode = 0 →
    programs.decrypt (universalNewlines encrypted.stdout) = some decrypted → decrypted.returncode = 0 →
    Json.loads (universalNewlines decrypted.stdout) = Json.loads (plaintextOf bundle)

variable {bundle : SecretBundle} {ciphertext recipient : String}

theorem sound_toDocument (h : validateBundle tools bundle = .ok ()) :
    bundle.toDocument.sound = true := by
  obtain ⟨-, ⟨hlow, hhigh⟩, -⟩ := validateBundle_eq_ok.1 h
  have hdigits : (Nat.toDigits 10 bundle.serverPort.natAbs).length ≤ 4300 := by
    have hlength : (Nat.toDigits 10 bundle.serverPort.natAbs).length ≤ 5 :=
      (Nat.length_toDigits_le_iff (by decide) (by decide)).2 (by omega)
    omega
  simp [SecretBundle.toDocument, Json.sound, Json.soundFields, hdigits]

theorem loads_plaintextOf (h : validateBundle tools bundle = .ok ()) :
    Json.loads (plaintextOf bundle) = some bundle.toDocument := by
  have hloads : Json.loads (plaintextOf bundle ++ "") = some bundle.toDocument :=
    Json.loads_textWith reads_quoteRaw (sound_toDocument h) rfl
  rwa [String.append_empty] at hloads

theorem fromDocument_toDocument (h : validateBundle tools bundle = .ok ()) :
    fromDocument builtins tools bundle.toDocument = .ok bundle := by
  have hbundle : fromDocument builtins tools bundle.toDocument =
      governed (validateBundle tools bundle) >>= fun _ => pure bundle := rfl
  rw [hbundle, h]
  rfl

theorem encryptBundle_eq_ok :
    encryptBundle programs bundle recipient = .ok ciphertext ↔
      isAgeRecipient recipient = true ∧ programs.sopsIsFile = true ∧
        ∃ encrypted, programs.encrypt recipient (plaintextOf bundle) = some encrypted ∧
          encrypted.returncode = 0 ∧ universalNewlines encrypted.stdout = ciphertext := by
  unfold encryptBundle
  cases hrecipient : isAgeRecipient recipient with
  | false => simp
  | true => simp [runSops_eq_ok]

theorem decryptBundle_of_encrypted (hinverse : Inverse programs)
    (hvalid : validateBundle tools bundle = .ok ())
    (hciphertext : encryptBundle programs bundle recipient = .ok ciphertext) :
    decryptBundle builtins tools programs ciphertext =
      (runSops programs (programs.decrypt ciphertext)).map fun _ => bundle := by
  obtain ⟨-, hfile, encrypted, hencrypt, hcode, rfl⟩ := encryptBundle_eq_ok.1 hciphertext
  unfold decryptBundle
  cases hrun : runSops programs (programs.decrypt (universalNewlines encrypted.stdout)) with
  | error e => rfl
  | ok plaintext =>
    obtain ⟨-, decrypted, hdecrypt, hzero, rfl⟩ := runSops_eq_ok.1 hrun
    have hloads := hinverse bundle recipient encrypted decrypted hencrypt hcode hdecrypt hzero
    rw [loads_plaintextOf hvalid] at hloads
    change (match Json.loads (universalNewlines decrypted.stdout) with
      | none => _
      | some document => fromDocument builtins tools document) = _
    rw [hloads]
    exact fromDocument_toDocument hvalid

theorem loadSecretBundle_of_encrypted {files : Files}
    (hciphertext : encryptBundle programs bundle recipient = .ok ciphertext)
    (hstore : files .encryptedStore = .text ciphertext) :
    loadSecretBundle builtins tools programs files = decryptBundle builtins tools programs ciphertext := by
  obtain ⟨-, -, encrypted, -, -, rfl⟩ := encryptBundle_eq_ok.1 hciphertext
  unfold loadSecretBundle
  rw [hstore]
  change (readText (.text (universalNewlines encrypted.stdout)) >>= fun ciphertext =>
    decryptBundle builtins tools programs ciphertext) = _
  rw [readText, universalNewlines_idem]
  rfl

end SecretStore
