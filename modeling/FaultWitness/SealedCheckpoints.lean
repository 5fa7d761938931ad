/-
**Sealed checkpoints.**

`CheckpointCipher` encrypts the state of a task with the identifiers of its tenant and of the task as
associated data.  The two are joined by a colon, and nothing keeps a colon out of either: where one
colon can be moved over, another tenant and another task have the same associated data.

Main definitions:

* `SealedCheckpoints.CheckpointCipher.seal`, `SealedCheckpoints.CheckpointCipher.open`;
* `SealedCheckpoints.Binds` — a sealed state opens for its own tenant and task alone;
* `SealedCheckpoints.Shifted` — one pair is the other with a colon moved over.

Main results:

* `SealedCheckpoints.binds_iff` — **a checkpoint is bound to its owner unless the colon is shifted**.
-/

import FaultWitness.SealedTraces

set_option autoImplicit false

namespace SealedCheckpoints

open Python
open Traces (AESGCM)

/-! ### The cipher -/

structure EncryptedCheckpoint where
  keyId : String
  nonce : List UInt8
  ciphertext : List UInt8
  formatVersion : ℤ := 1
deriving DecidableEq

inductive CheckpointError
  /-- An integer with more digits than `str` prints. -/
  | unprintable
  | unknownFormat
  | invalidTag
  /-- What was decrypted is no JSON. -/
  | malformed
  /-- What was decrypted is no JSON object. -/
  | attributeError
  | unknownPayload
  | stateNoObject
deriving DecidableEq

/-- A cipher under a key with a name. -/
structure CheckpointCipher where
  keyId : String
  cipher : AESGCM

/-- The associated data of a checkpoint. -/
def aad (tenantId taskId : String) : String := tenantId ++ ":" ++ taskId ++ ":v1"

/-- The document around a state. -/
def body (value : List (String × Json)) : Json :=
  .obj [("format", .str "faultwitness-checkpoint"), ("version", .int 1), ("state", .obj value)]

def CheckpointCipher.seal (c : CheckpointCipher) (value : List (String × Json))
    (tenantId taskId : String) (nonce : List UInt8) : Except CheckpointError EncryptedCheckpoint :=
  if (body value).sound then
    .ok { keyId := c.keyId, nonce
          ciphertext := c.cipher.encrypt nonce (body value).dumps (aad tenantId taskId) }
  else .error .unprintable

/-- What stands in an exponent, or in none. -/
def exponent : List Char → ℤ
  | _ :: '-' :: ds => -(Nat.ofDigitChars 10 ds 0 : ℤ)
  | _ :: '+' :: ds => Nat.ofDigitChars 10 ds 0
  | _ :: ds => Nat.ofDigitChars 10 ds 0
  | [] => 0

/-- The digits of a float without a sign, and the power of ten that they are multiplied by. -/
def significand (cs : List Char) : ℕ × ℤ :=
  let whole := cs.takeWhile Char.isDigit
  match cs.dropWhile Char.isDigit with
  | '.' :: rest =>
    let fraction := rest.takeWhile Char.isDigit
    (Nat.ofDigitChars 10 (whole ++ fraction) 0,
      exponent (rest.dropWhile Char.isDigit) - fraction.length)
  | rest => (Nat.ofDigitChars 10 whole 0, exponent rest)

/-- Whether `n * 10 ^ e` is read as the float 1, which lies `2 ^ -53` above the float before it and
`2 ^ -52` below the next one; the midpoints are rounded to it. -/
def roundsToOne (n : ℕ) (e : ℤ) : Bool :=
  (2 ^ 54 - 1) * 10 ^ (-e).toNat ≤ 2 ^ 54 * n * 10 ^ e.toNat ∧
    2 ^ 53 * n * 10 ^ e.toNat ≤ (2 ^ 53 + 1) * 10 ^ (-e).toNat

/-- Whether a value is equal to the number one. -/
def isOne : Json → Bool
  | .int n => n = 1
  | .bool b => b
  | .float text => roundsToOne (significand text.toList).1 (significand text.toList).2
  | _ => false

example : isOne (.float "10e-1") = true ∧ isOne (.float "1.0000000000000003") = false := by
  decide +kernel

def CheckpointCipher.open (c : CheckpointCipher) (checkpoint : EncryptedCheckpoint)
    (tenantId taskId : String) : Except CheckpointError (List (String × Json)) := do
  if checkpoint.formatVersion ≠ 1 ∨ checkpoint.keyId ≠ c.keyId then throw .unknownFormat
  match c.cipher.decrypt checkpoint.nonce checkpoint.ciphertext (aad tenantId taskId) with
  | none => throw .invalidTag
  | some text =>
    match Json.loads text with
    | none => throw .malformed
    | some (.obj fields) =>
      if fields.lookup "format" ≠ some (.str "faultwitness-checkpoint") ∨
          ¬ (fields.lookup "version").any isOne = true then
        throw .unknownPayload
      match fields.lookup "state" with
      | some (.obj state) => return state
      | _ => throw .stateNoObject
    | some _ => throw .attributeError

/-! ### Opening what was sealed -/

/-- A state with its keys in order, as it is read back. -/
def sorted (value : List (String × Json)) : List (String × Json) :=
  (Json.sortFields value).insertionSort fun a b => a.1 ≤ b.1

theorem sortKeys_body (value : List (String × Json)) : (body value).sortKeys =
    .obj [("format", .str "faultwitness-checkpoint"), ("state", .obj (sorted value)),
      ("version", .int 1)] := by
  have hformat : ("format" : String) ≤ "state" := by decide
  have hversion : ¬ ("version" : String) ≤ "state" := by decide
  simp [body, Json.sortKeys, Json.sortFields, List.insertionSort, List.orderedInsert, hformat,
    hversion, sorted]

variable {c : CheckpointCipher} {value : List (String × Json)} {tenantId taskId : String}
  {nonce : List UInt8} {checkpoint : EncryptedCheckpoint} {tenantId' taskId' : String}

theorem seal_eq_ok (h : c.seal value tenantId taskId nonce = .ok checkpoint) :
    (body value).sound = true ∧ checkpoint = ⟨c.keyId, nonce,
      c.cipher.encrypt nonce (body value).dumps (aad tenantId taskId), 1⟩ := by
  rw [CheckpointCipher.seal] at h
  split at h
  · rename_i hsound
    cases h
    exact ⟨hsound, rfl⟩
  · cases h

theorem open_of_aad (h : c.seal value tenantId taskId nonce = .ok checkpoint)
    (haad : aad tenantId' taskId' = aad tenantId taskId) :
    c.open checkpoint tenantId' taskId' = .ok (sorted value) := by
  obtain ⟨hsound, rfl⟩ := seal_eq_ok h
  rw [CheckpointCipher.open, check_eq_ok]
  refine ⟨by simp, ?_⟩
  simp only [haad, c.cipher.decrypt_encrypt, Json.loads_dumps hsound, sortKeys_body]
  rfl

theorem open_of_aad_ne (hauth : c.cipher.Authenticates)
    (h : c.seal value tenantId taskId nonce = .ok checkpoint)
    (haad : aad tenantId' taskId' ≠ aad tenantId taskId) :
    c.open checkpoint tenantId' taskId' = .error .invalidTag := by
  obtain ⟨-, rfl⟩ := seal_eq_ok h
  have hdecrypt := hauth nonce (body value).dumps _ _ haad
  rw [CheckpointCipher.open, if_neg (by simp)]
  simp only [hdecrypt]
  rfl

/-! ### The associated data -/

/-- The second pair is the first with a colon moved to the left. -/
def ShiftedLeft (tenantId taskId tenantId' taskId' : String) : Prop :=
  ∃ part, tenantId = tenantId' ++ ":" ++ part ∧ taskId' = part ++ ":" ++ taskId

/-- One pair is the other with a colon moved over. -/
def Shifted (tenantId taskId tenantId' taskId' : String) : Prop :=
  ShiftedLeft tenantId taskId tenantId' taskId' ∨ ShiftedLeft tenantId' taskId' tenantId taskId

theorem append_cons_eq_iff {α : Type} {sep : α} {as bs as' bs' : List α} :
    as ++ sep :: bs = as' ++ sep :: bs' ↔ (as = as' ∧ bs = bs') ∨
      (∃ part, as = as' ++ sep :: part ∧ bs' = part ++ sep :: bs) ∨
      ∃ part, as' = as ++ sep :: part ∧ bs = part ++ sep :: bs' := by
  constructor
  · intro h
    rcases List.append_eq_append_iff.1 h with ⟨part, rfl, hpart⟩ | ⟨part, rfl, hpart⟩ <;>
      cases part with
      | nil =>
        rw [List.nil_append, List.cons.injEq] at hpart
        rw [List.append_nil]
        exact Or.inl ⟨rfl, by simp [hpart.2]⟩
      | cons x part =>
        rw [List.cons_append, List.cons.injEq] at hpart
        obtain ⟨rfl, hpart⟩ := hpart
        first
        | exact Or.inr (Or.inr ⟨part, rfl, hpart⟩)
        | exact Or.inr (Or.inl ⟨part, rfl, hpart⟩)
  · rintro (⟨rfl, rfl⟩ | ⟨part, rfl, rfl⟩ | ⟨part, rfl, rfl⟩)
    · rfl
    · simp
    · simp

theorem toList_aad (tenantId taskId : String) : (aad tenantId taskId).toList =
    tenantId.toList ++ ':' :: (taskId.toList ++ ":v1".toList) := by
  have hcolon : (":" : String).toList = [':'] := rfl
  simp [aad, String.toList_append, hcolon]

theorem shiftedLeft_iff {tenantId taskId : String} :
    ShiftedLeft tenantId taskId tenantId' taskId' ↔
      ∃ part, tenantId.toList = tenantId'.toList ++ ':' :: part ∧
        taskId'.toList = part ++ ':' :: taskId.toList := by
  have hcolon : (":" : String).toList = [':'] := rfl
  constructor
  · rintro ⟨part, rfl, rfl⟩
    exact ⟨part.toList, by simp [String.toList_append, hcolon],
      by simp [String.toList_append, hcolon]⟩
  · rintro ⟨part, htenant, htask⟩
    refine ⟨String.ofList part, String.toList_inj.1 ?_, String.toList_inj.1 ?_⟩
    · simp [String.toList_append, hcolon, htenant]
    · simp [String.toList_append, hcolon, htask]

/-- Two pairs have the same associated data if and only if a colon can be moved over. -/
theorem aad_eq_iff {tenantId taskId : String} :
    aad tenantId taskId = aad tenantId' taskId' ↔
      (tenantId, taskId) = (tenantId', taskId') ∨ Shifted tenantId taskId tenantId' taskId' := by
  have htask : taskId.toList = taskId'.toList ↔ taskId = taskId' := String.toList_inj
  rw [← String.toList_inj, toList_aad, toList_aad, append_cons_eq_iff, Shifted, shiftedLeft_iff,
    shiftedLeft_iff, Prod.mk.injEq, ← String.toList_inj, ← htask]
  have hcut : ∀ part task task' : List Char, task' ++ ":v1".toList =
      part ++ ':' :: (task ++ ":v1".toList) ↔ task' = part ++ ':' :: task := by
    intro part task task'
    rw [← List.cons_append, ← List.append_assoc, List.append_cancel_right_eq]
  simp only [hcut, List.append_cancel_right_eq]

/-! ### The binding -/

/-- What was sealed for a tenant and a task opens for them, and for no others. -/
def Binds (c : CheckpointCipher) (value : List (String × Json)) (checkpoint : EncryptedCheckpoint)
    (tenantId taskId tenantId' taskId' : String) : Prop :=
  ((tenantId', taskId') = (tenantId, taskId) →
    c.open checkpoint tenantId' taskId' = .ok (sorted value)) ∧
  ((tenantId', taskId') ≠ (tenantId, taskId) →
    ∃ err, c.open checkpoint tenantId' taskId' = .error err)

/-- **A checkpoint is bound to its tenant and its task unless the other pair is theirs with a colon
moved over.** -/
theorem binds_iff (c : CheckpointCipher) (hauth : c.cipher.Authenticates)
    (value : List (String × Json)) (hvalue : (Json.obj value).sound = true) (nonce : List UInt8)
    (tenantId taskId tenantId' taskId' : String) :
    ∃ checkpoint, c.seal value tenantId taskId nonce = .ok checkpoint ∧
      (Binds c value checkpoint tenantId taskId tenantId' taskId' ↔
        ¬ Shifted tenantId taskId tenantId' taskId') := by
  have hsound : (body value).sound = true := by
    have hone : (Nat.toDigits 10 1).length ≤ 4300 := by decide
    simpa [body, Json.sound, Json.soundFields, hone] using hvalue
  have hseal : c.seal value tenantId taskId nonce = .ok ⟨c.keyId, nonce,
      c.cipher.encrypt nonce (body value).dumps (aad tenantId taskId), 1⟩ := by
    rw [CheckpointCipher.seal, if_pos hsound]
  refine ⟨_, hseal, ?_⟩
  constructor
  · intro hbinds hshifted
    have haad : aad tenantId' taskId' = aad tenantId taskId :=
      (aad_eq_iff.2 (Or.inr hshifted)).symm
    have hopen := open_of_aad hseal haad
    have hne : (tenantId', taskId') ≠ (tenantId, taskId) := by
      intro heq
      cases heq
      -- a text is no longer than itself
      rcases hshifted with ⟨part, hpart, -⟩ | ⟨part, hpart, -⟩ <;>
      · have hlength := congrArg String.length hpart
        simp only [String.length_append] at hlength
        have hcolon : (":" : String).length = 1 := rfl
        omega
    obtain ⟨err, herr⟩ := hbinds.2 hne
    rw [hopen] at herr
    cases herr
  · intro hnot
    refine ⟨?_, ?_⟩
    · intro heq
      cases heq
      exact open_of_aad hseal rfl
    · intro hne
      refine ⟨_, open_of_aad_ne hauth hseal ?_⟩
      intro haad
      rcases aad_eq_iff.1 haad.symm with heq | hshifted
      · exact hne heq.symm
      · exact hnot hshifted

def sampleCheckpoints : CheckpointCipher := ⟨"key-1", Traces.sampleAead⟩

/-- The state of a task of one tenant is opened as the state of a task of another. -/
theorem not_binds_colon : ∃ checkpoint,
    sampleCheckpoints.seal [("node", .str "collect")] "ten:a" "task" Traces.sampleNonce =
      .ok checkpoint ∧
    ¬ Binds sampleCheckpoints [("node", .str "collect")] checkpoint "ten:a" "task" "ten" "a:task" := by
  have hseal : sampleCheckpoints.seal [("node", .str "collect")] "ten:a" "task" Traces.sampleNonce =
      .ok ⟨"key-1", Traces.sampleNonce, Traces.sampleAead.encrypt Traces.sampleNonce
        (body [("node", .str "collect")]).dumps (aad "ten:a" "task"), 1⟩ := by
    rw [CheckpointCipher.seal, if_pos (by rfl)]
    rfl
  refine ⟨_, hseal, fun hbinds => ?_⟩
  have haad : aad "ten" "a:task" = aad "ten:a" "task" := by decide
  obtain ⟨err, herr⟩ := hbinds.2 (by decide)
  rw [open_of_aad hseal haad] at herr
  cases herr

/-- Without a colon to move, another tenant is refused. -/
theorem binds_plain : ∃ checkpoint err,
    sampleCheckpoints.seal [("node", .str "collect")] "ten_1" "task_1" Traces.sampleNonce =
      .ok checkpoint ∧
    sampleCheckpoints.open checkpoint "ten_2" "task_1" = .error err := by
  obtain ⟨checkpoint, hseal, hiff⟩ := binds_iff sampleCheckpoints Traces.sampleAead_authenticates
    [("node", .str "collect")] (by decide) Traces.sampleNonce "ten_1" "task_1" "ten_2" "task_1"
  have hnot : ¬ Shifted "ten_1" "task_1" "ten_2" "task_1" := by
    rintro (⟨part, hpart, -⟩ | ⟨part, hpart, -⟩) <;>
    · have hlength := congrArg String.length hpart
      simp only [String.length_append] at hlength
      have hcolon : (":" : String).length = 1 := rfl
      have hfirst : ("ten_1" : String).length = 5 := rfl
      have hsecond : ("ten_2" : String).length = 5 := rfl
      omega
  obtain ⟨err, herr⟩ := (hiff.2 hnot).2 (by decide)
  exact ⟨checkpoint, err, hseal, herr⟩

end SealedCheckpoints
