/-
**Live faults and their restoration.**

`inject_live_fault` reads the flag document, writes a record of the operation with the whole document
as it was, changes the flag and marks the record as injected; `restore_live_fault` takes the document
from such a record, writes it back and marks the record as restored.  The record and the flags are
two stores, so the one can be behind the other, and every record is a snapshot of all flags, so what
was injected in between comes back with it.

A document that the flag service has taken is the one it serves; a write that raises may or may not
have been taken.  Times are no part of a record here, for nothing reads them.

Main definitions:

* `FaultOperations.inject`, `FaultOperations.restore` — the two calls;
* `FaultOperations.InjectEnd` — where an injection ends once it has begun to change the flags;
* `FaultOperations.step` — the successful calls one after the other.

Main results:

* `FaultOperations.recoverable_iff` — **what an injection leaves behind can be restored exactly if it
  came to its end**;
* `FaultOperations.restored_iff` — **the flags are back exactly if the operation restored last had
  found them so**.
-/

import FaultWitness.FlagDocuments
import FaultWitness.Runs

set_option autoImplicit false

namespace FaultOperations

open Python Runs FlagDocuments

/-! ### Records -/

inductive Status
  | prepared
  | injected
  | restored
deriving DecidableEq

structure Record where
  operationId : String
  producerSha : String
  faultClass : String
  flagKey : String
  original : Document
  originalDigest : String
  injectedDigest : String
  status : Status
  restoredDigest : Option String := none
deriving DecidableEq

/-- The file of an operation. -/
inductive File
  | whole (record : Record)
  /-- A file whose writing was cut off. -/
  | torn
deriving DecidableEq

/-- The flags that are served, and the files of the operations. -/
structure World where
  flags : Document
  files : String → Option File

inductive OperationError
  /-- A refusal of the code itself. -/
  | governance
  | keyError
  | typeError
  /-- The file of the operation is no JSON. -/
  | malformed
deriving DecidableEq

def ofFlagError : FlagError → OperationError
  | .governance => .governance
  | .keyError => .keyError
  | .typeError => .typeError

/-- The function `_operation_path` takes names of the form `op-20260101T000000Z-0123456789ab`. -/
def isOperationId (operationId : String) : Bool :=
  match operationId.toList with
  | 'o' :: 'p' :: '-' :: rest =>
    let digits := fun cs : List Char => cs.all fun c => '0' ≤ c && c ≤ '9'
    rest.length = 29 && digits (rest.take 8) && (rest.drop 8).take 1 = ['T'] &&
      digits ((rest.drop 9).take 6) && (rest.drop 15).take 2 = ['Z', '-'] &&
      (rest.drop 17).all fun c => ('0' ≤ c && c ≤ '9') || ('a' ≤ c && c ≤ 'f')
  | _ => false

def isFullSha (sha : String) : Bool :=
  sha.length = 40 && sha.toList.all fun c => ('0' ≤ c && c ≤ '9') || ('a' ≤ c && c ≤ 'f')

/-- The hashes of the code: of the canonical text of a document, and of the subject of an
identifier, cut to twelve digits. -/
structure Hashes where
  digest : Document → String
  short : (producerSha faultClass : String) → Document → String

variable (h : Hashes)

/-! ### Injecting -/

/-- The identifier of an operation; `stamp` is the time as the format `%Y%m%dT%H%M%SZ-` writes it. -/
def operationId (producerSha faultClass stamp : String) (original : Document) : String :=
  "op-" ++ stamp ++ h.short producerSha faultClass original

/-- What is done before the flags are touched: the record that is written and the document that is
about to be. -/
def prepare (w : World) (producerSha faultClass stamp : String) :
    Except OperationError (Record × Document) :=
  match ADAPTERS.lookup faultClass with
  | none => .error .governance
  | some adapter =>
    if isFullSha producerSha = false then .error .governance
    else if (flagsOf w.flags).lookup adapter.flagKey = none then .error .governance
    else
      match setVariant w.flags adapter.flagKey adapter.variant with
      | .error err => .error (ofFlagError err)
      | .ok mutated =>
        if changedFlags w.flags mutated ≠ [adapter.flagKey] then .error .governance
        else if isOperationId (operationId h producerSha faultClass stamp w.flags) = false then
          .error .governance
        else
          .ok ({ operationId := operationId h producerSha faultClass stamp w.flags
                 producerSha, faultClass, flagKey := adapter.flagKey, original := w.flags
                 originalDigest := h.digest w.flags
                 injectedDigest := h.digest mutated
                 status := .prepared }, mutated)

/-- Where an injection ends once `client.write` has been called. -/
inductive InjectEnd
  /-- The write raises or is interrupted; it may have been taken. -/
  | writeRaised (taken : Bool)
  /-- The write has been taken, and the record is not written again. -/
  | writeReturned
  /-- The second record is not written, or cut off. -/
  | recordRaised (torn : Bool)
  /-- The second record is written. -/
  | recordWritten
deriving DecidableEq

def World.put (w : World) (operationId : String) (file : File) : World :=
  { w with files := Function.update w.files operationId (some file) }

/-- What an injection leaves behind. -/
def inject (w : World) (record : Record) (mutated : Document) : InjectEnd → World
  | .writeRaised false => w.put record.operationId (.whole record)
  | .writeRaised true =>
    { w.put record.operationId (.whole record) with flags := mutated }
  | .writeReturned => { w.put record.operationId (.whole record) with flags := mutated }
  | .recordRaised false => { w.put record.operationId (.whole record) with flags := mutated }
  | .recordRaised true => { w.put record.operationId .torn with flags := mutated }
  | .recordWritten =>
    { w.put record.operationId (.whole { record with status := .injected }) with flags := mutated }

/-! ### Restoring -/

/-- What is done before the flags are touched: the record whose document is about to be written. -/
def restorable (w : World) (producerSha operationId : String) : Except OperationError Record :=
  if isOperationId operationId = false then .error .governance
  else
    match w.files operationId with
    | none => .error .governance
    | some .torn => .error .malformed
    | some (.whole record) =>
      if record.producerSha ≠ producerSha ∨ record.status ≠ .injected then .error .governance
      else if isFullSha producerSha = false then .error .governance
      else .ok record

/-- What is done after the document has been written and `read` has been read back. -/
def restore (w : World) (operationId : String) (record : Record) (read : Document) :
    Except OperationError World :=
  if h.digest read ≠ record.originalDigest then .error .governance
  else
    .ok (({ w with flags := record.original }).put operationId
      (.whole { record with status := .restored, restoredDigest := some (h.digest read) }))

/-! ### What is recoverable -/

/-- The call `restore_live_fault` writes the document that the operation has recorded. -/
def Recoverable (w : World) (record : Record) : Prop :=
  ∃ found, restorable w record.producerSha record.operationId = .ok found ∧
    found.original = record.original

variable {h} {w : World} {record : Record} {mutated : Document}

theorem prepare_eq_ok {producerSha faultClass stamp : String}
    (hp : prepare h w producerSha faultClass stamp = .ok (record, mutated)) :
    isOperationId record.operationId = true ∧ isFullSha record.producerSha = true ∧
      record.producerSha = producerSha ∧ record.original = w.flags ∧
      record.originalDigest = h.digest w.flags ∧ record.status = .prepared ∧
      record.operationId = operationId h producerSha faultClass stamp w.flags ∧
      ∃ adapter, OnlyVariant w.flags mutated record.flagKey adapter.variant ∧
        ADAPTERS.lookup faultClass = some adapter := by
  rw [prepare] at hp
  split at hp
  · cases hp
  rename_i adapter hadapter
  split at hp
  · cases hp
  rename_i hsha
  split at hp
  · cases hp
  split at hp
  · cases hp
  rename_i mutated' hset
  split at hp
  · cases hp
  split at hp
  · cases hp
  rename_i hid
  cases hp
  exact ⟨by simpa using hid, by simpa using hsha, rfl, rfl, rfl, rfl, rfl, adapter,
    onlyVariant_of_setVariant hset, hadapter⟩

/-- **What an injection leaves behind can be restored exactly if the record has been marked.** -/
theorem recoverable_iff (h : Hashes) (w : World) (producerSha faultClass stamp : String)
    (record : Record) (mutated : Document)
    (hp : prepare h w producerSha faultClass stamp = .ok (record, mutated)) (stop : InjectEnd) :
    Recoverable (inject w record mutated stop) record ↔ stop = .recordWritten := by
  obtain ⟨hid, hsha, -, -, -, hstatus, -, -⟩ := prepare_eq_ok hp
  have hprepared : ∀ w' : World, w'.files record.operationId = some (.whole record) →
      ¬ Recoverable w' record := by
    rintro w' hfile ⟨found, hfound, -⟩
    simp [restorable, hid, hfile, hstatus] at hfound
  constructor
  · intro hrec
    cases stop with
    | writeRaised taken =>
      refine absurd hrec (hprepared _ ?_)
      cases taken <;> exact Function.update_self record.operationId _ w.files
    | writeReturned => exact absurd hrec (hprepared _ (Function.update_self _ _ _))
    | recordRaised torn =>
      cases torn with
      | false => exact absurd hrec (hprepared _ (Function.update_self _ _ _))
      | true =>
        obtain ⟨found, hfound, -⟩ := hrec
        simp [inject, World.put, restorable, hid] at hfound
    | recordWritten => rfl
  · intro hstop
    subst hstop
    refine ⟨{ record with status := .injected }, ?_, rfl⟩
    simp [inject, World.put, restorable, hid, hsha]

/-- A flag with two variants, the second of which is the default. -/
def sampleFlag (flagKey variant : String) : String × Json :=
  (flagKey, .obj [("defaultVariant", .str "off"),
    ("variants", .obj [(variant, .bool true), ("off", .bool false)])])

def sampleFlags : Document :=
  [("flags", .obj [sampleFlag "productCatalogFailure" "on", sampleFlag "paymentFailure" "100%"])]

def sampleHashes : Hashes := ⟨fun document => (Json.obj document).dumps, fun _ _ _ => "0123456789ab"⟩

def sampleSha : String := "0123456789abcdef0123456789abcdef01234567"

/-- The flags as they are, and no operation. -/
def sampleWorld : World := ⟨sampleFlags, fun _ => none⟩

theorem prepare_sample : ∃ record mutated,
    prepare sampleHashes sampleWorld sampleSha "paymentFailure" "20260101T000000Z-" =
      .ok (record, mutated) := by
  have hsome : (prepare sampleHashes sampleWorld sampleSha "paymentFailure"
      "20260101T000000Z-").isOk = true := by
    decide +kernel
  cases hp : prepare sampleHashes sampleWorld sampleSha "paymentFailure" "20260101T000000Z-" with
  | error err =>
    rw [hp] at hsome
    cases hsome
  | ok p => exact ⟨p.1, p.2, rfl⟩

/-- A write that is taken and raises leaves a fault that the restoration refuses to lift. -/
theorem not_recoverable_writeRaised : ∃ record mutated,
    prepare sampleHashes sampleWorld sampleSha "paymentFailure" "20260101T000000Z-" =
      .ok (record, mutated) ∧
    (inject sampleWorld record mutated (.writeRaised true)).flags = mutated ∧
    ¬ Recoverable (inject sampleWorld record mutated (.writeRaised true)) record := by
  obtain ⟨record, mutated, hp⟩ := prepare_sample
  obtain ⟨hid, -, -, -, -, hstatus, -, -⟩ := prepare_eq_ok hp
  refine ⟨record, mutated, hp, rfl, ?_⟩
  rintro ⟨found, hfound, -⟩
  simp [inject, World.put, restorable, hid, hstatus] at hfound

theorem recoverable_recordWritten : ∃ record mutated,
    prepare sampleHashes sampleWorld sampleSha "paymentFailure" "20260101T000000Z-" =
      .ok (record, mutated) ∧
    Recoverable (inject sampleWorld record mutated .recordWritten) record := by
  obtain ⟨record, mutated, hp⟩ := prepare_sample
  exact ⟨record, mutated, hp, (recoverable_iff sampleHashes sampleWorld sampleSha "paymentFailure"
    "20260101T000000Z-" record mutated hp .recordWritten).2 rfl⟩

/-! ### Successful calls one after the other -/

inductive Label
  | inject (producerSha faultClass stamp : String)
  | restore (producerSha operationId : String)

/-- The stores; the operations that are injected, the newest first; and the one restored last. -/
structure Sys where
  world : World
  active : List String := []
  last : Option String := none

variable (h)

def step (s : Sys) : Label → Option Sys
  | .inject producerSha faultClass stamp =>
    match prepare h s.world producerSha faultClass stamp with
    | .error _ => none
    | .ok (record, mutated) =>
      some { s with
        world := inject s.world record mutated .recordWritten
        active := record.operationId :: s.active }
  | .restore producerSha operationId =>
    match restorable s.world producerSha operationId with
    | .error _ => none
    | .ok record =>
      match restore h s.world operationId record record.original with
      | .error _ => none
      | .ok world =>
        some { world, active := s.active.erase operationId, last := some operationId }

/-- No operation is marked as injected. -/
def AllRestored (w : World) : Prop :=
  ∀ operationId record, w.files operationId = some (.whole record) → record.status ≠ .injected

/-- The operation restored is the newest one; the identifier of a new one is not in use. -/
def NewestFirst (s : Sys) : Label → Prop
  | .inject producerSha faultClass stamp =>
    operationId h producerSha faultClass stamp s.world.flags ∉ s.active
  | .restore _ operationId => s.active.head? = some operationId

instance (s : Sys) (l : Label) : Decidable (NewestFirst h s l) :=
  match l with
  | .inject _ _ _ => inferInstanceAs (Decidable (_ ∉ s.active))
  | .restore _ operationId => inferInstanceAs (Decidable (s.active.head? = some operationId))

variable {h} {s s' : Sys} {l : Label} {flags : Document}

/-- What a step does. -/
inductive Stepped (h : Hashes) (s : Sys) : Label → Sys → Prop
  | injected (producerSha faultClass stamp : String) (record : Record) (mutated : Document)
      (hid : record.operationId = operationId h producerSha faultClass stamp s.world.flags)
      (horiginal : record.original = s.world.flags) :
      Stepped h s (.inject producerSha faultClass stamp)
        { s with
          world := ⟨mutated, Function.update s.world.files record.operationId
            (some (.whole { record with status := .injected }))⟩
          active := record.operationId :: s.active }
  | restored (producerSha operationId : String) (record : Record)
      (hfile : s.world.files operationId = some (.whole record))
      (hstatus : record.status = .injected) :
      Stepped h s (.restore producerSha operationId)
        { world := ⟨record.original, Function.update s.world.files operationId
            (some (.whole { record with
              status := .restored, restoredDigest := some (h.digest record.original) }))⟩
          active := s.active.erase operationId
          last := some operationId }

theorem restorable_eq_ok {producerSha operationId : String} {record : Record}
    (hr : restorable w producerSha operationId = .ok record) :
    w.files operationId = some (.whole record) ∧ record.status = .injected := by
  rw [restorable] at hr
  split at hr
  · cases hr
  split at hr
  · cases hr
  · cases hr
  rename_i found hfile
  split at hr
  · cases hr
  rename_i hfits
  split at hr
  · cases hr
  cases hr
  rw [not_or, not_not, not_not] at hfits
  exact ⟨hfile, hfits.2⟩

theorem stepped_of_step (hs : step h s l = some s') : Stepped h s l s' := by
  cases l with
  | inject producerSha faultClass stamp =>
    simp only [step] at hs
    split at hs
    · cases hs
    rename_i record mutated hp
    cases hs
    obtain ⟨-, -, -, horiginal, -, -, hid, -⟩ := prepare_eq_ok hp
    exact .injected producerSha faultClass stamp record mutated hid horiginal
  | restore producerSha operationId =>
    simp only [step] at hs
    split at hs
    · cases hs
    rename_i record hr
    split at hs
    · cases hs
    rename_i world hw
    cases hs
    rw [restore] at hw
    split at hw
    · cases hw
    cases hw
    obtain ⟨hfile, hstatus⟩ := restorable_eq_ok hr
    exact .restored producerSha operationId record hfile hstatus

/-! ### Where the flags come from -/

/-- The flags are as at the start, or as the operation restored last had found them, unless an
operation is injected. -/
def Origin (flags : Document) (s : Sys) : Prop :=
  (∃ operationId record, s.world.files operationId = some (.whole record) ∧
    record.status = .injected) ∨
  (s.last = none ∧ s.world.flags = flags) ∨
  ∃ operationId record, s.last = some operationId ∧
    s.world.files operationId = some (.whole record) ∧ s.world.flags = record.original

theorem Origin.step (hs : step h s l = some s') : Origin flags s' := by
  cases stepped_of_step hs with
  | injected producerSha faultClass stamp record mutated hid horiginal =>
    exact Or.inl ⟨record.operationId, _, Function.update_self _ _ _, rfl⟩
  | restored producerSha operationId record hfile hstatus =>
    exact Or.inr (Or.inr ⟨operationId, _, rfl, Function.update_self _ _ _, rfl⟩)

/-! ### The newest first -/

/-- What is injected is active. -/
def Listed (s : Sys) : Prop :=
  ∀ operationId record, s.world.files operationId = some (.whole record) →
    record.status = .injected → operationId ∈ s.active

theorem Listed.step (hlisted : Listed s) (hs : step h s l = some s') : Listed s' := by
  intro op r hfile hstatus
  cases stepped_of_step hs with
  | injected producerSha faultClass stamp record mutated hid horiginal =>
    by_cases heq : op = record.operationId
    · rw [heq]
      exact List.mem_cons_self
    · simp only [Function.update_of_ne heq] at hfile
      exact List.mem_cons_of_mem _ (hlisted op r hfile hstatus)
  | restored producerSha operationId record hfile' hstatus' =>
    by_cases heq : op = operationId
    · subst heq
      simp only [Function.update_self, Option.some.injEq, File.whole.injEq] at hfile
      rw [← hfile] at hstatus
      cases hstatus
    · simp only [Function.update_of_ne heq] at hfile
      exact (List.mem_erase_of_ne heq).2 (hlisted op r hfile hstatus)

/-- Below the operations that are active the flags are as at the start. -/
def Chain (files : String → Option File) (flags : Document) : Document → List String → Prop
  | current, [] => current = flags
  | _, operationId :: rest => ∃ record, files operationId = some (.whole record) ∧
      record.status = .injected ∧ Chain files flags record.original rest

theorem Chain.update {files : String → Option File} {operationId : String} {file : File}
    {current : Document} {active : List String} (hchain : Chain files flags current active)
    (hnot : operationId ∉ active) :
    Chain (Function.update files operationId (some file)) flags current active := by
  induction active generalizing current with
  | nil => exact hchain
  | cons op rest ih =>
    obtain ⟨record, hfile, hstatus, hrest⟩ := hchain
    rw [List.mem_cons, not_or] at hnot
    refine ⟨record, ?_, hstatus, ih hrest hnot.2⟩
    rw [Function.update_of_ne (Ne.symm hnot.1)]
    exact hfile

/-- What holds in runs that restore the newest first. -/
structure Stacked (flags : Document) (s : Sys) : Prop where
  nodup : s.active.Nodup
  chain : Chain s.world.files flags s.world.flags s.active

theorem Stacked.step (hstack : Stacked flags s) (hnewest : NewestFirst h s l)
    (hs : step h s l = some s') : Stacked flags s' := by
  cases stepped_of_step hs with
  | injected producerSha faultClass stamp record mutated hid horiginal =>
    have hnot : record.operationId ∉ s.active := by
      rw [hid]
      exact hnewest
    refine ⟨List.nodup_cons.2 ⟨hnot, hstack.nodup⟩, _, Function.update_self _ _ _, rfl, ?_⟩
    simp only [horiginal]
    exact hstack.chain.update hnot
  | restored producerSha operationId record hfile hstatus =>
    obtain ⟨hnodup, hchain⟩ := hstack
    have hhead : s.active.head? = some operationId := hnewest
    obtain ⟨rest, hactive⟩ := List.head?_eq_some_iff.1 hhead
    rw [hactive] at hnodup hchain
    rw [List.nodup_cons] at hnodup
    obtain ⟨found, hfound, -, hrest⟩ := hchain
    rw [hfile] at hfound
    cases hfound
    refine ⟨?_, ?_⟩
    · simp only [hactive, List.erase_cons_head]
      exact hnodup.2
    · simp only [hactive, List.erase_cons_head]
      exact hrest.update hnodup.1

/-- **Once every operation is restored, the flags are as at the start exactly if the operation
restored last had found them so; and they always are in runs that restore the newest first.** -/
theorem restored_iff (h : Hashes) (w : World) (hstart : AllRestored w) :
    (∀ s, Reachable (step h) { world := w } s → AllRestored s.world →
      (s.world.flags = w.flags ↔ ∀ operationId record, s.last = some operationId →
        s.world.files operationId = some (.whole record) → record.original = w.flags)) ∧
    ∀ s, Reaches (step h) (NewestFirst h) { world := w } s → AllRestored s.world →
      s.world.flags = w.flags := by
  constructor
  · intro s hreach hrestored
    have horigin : Origin w.flags s :=
      hreach.invariant (Or.inr (Or.inl ⟨rfl, rfl⟩)) fun _ _ _ _ _ hs => Origin.step hs
    rcases horigin with ⟨op, record, hfile, hstatus⟩ | ⟨hlast, hflags⟩ | ⟨op, record, hlast, hfile, hflags⟩
    · exact absurd hstatus (hrestored op record hfile)
    · refine ⟨fun _ op record hop => ?_, fun _ => hflags⟩
      rw [hlast] at hop
      cases hop
    · rw [hflags]
      constructor
      · intro horiginal op' record' hlast' hfile'
        rw [hlast] at hlast'
        cases hlast'
        rw [hfile] at hfile'
        cases hfile'
        exact horiginal
      · intro hall
        exact hall op record hlast hfile
  · intro s hreach hrestored
    have hlisted : Listed s := by
      refine hreach.reachable.invariant ?_ fun _ _ _ hi _ hs => hi.step hs
      intro op record hfile hstatus
      exact absurd hstatus (hstart op record hfile)
    have hfirst : Stacked w.flags { world := w } := ⟨List.nodup_nil, rfl⟩
    have hstack : Stacked w.flags s := hreach.invariant hfirst fun _ _ _ hi hC hs => hi.step hC hs
    obtain ⟨-, hchain⟩ := hstack
    cases hactive : s.active with
    | nil =>
      rw [hactive] at hchain
      exact hchain
    | cons op rest =>
      rw [hactive] at hchain
      obtain ⟨record, hfile, hstatus, -⟩ := hchain
      exact absurd hstatus (hrestored op record hfile)

/-- A state reached from the sample in which nothing is active has every operation restored. -/
theorem allRestored_of_active {s : Sys} (hreach : Reachable (step sampleHashes) { world := sampleWorld } s)
    (hactive : s.active = []) : AllRestored s.world := by
  have hlisted : Listed s := by
    refine hreach.invariant ?_ fun _ _ _ hi _ hs => hi.step hs
    intro op record hfile
    cases hfile
  intro op record hfile hstatus
  have hmem := hlisted op record hfile hstatus
  rw [hactive] at hmem
  cases hmem

def firstOperation : String := "op-20260101T000000Z-0123456789ab"

def secondOperation : String := "op-20260101T000001Z-0123456789ab"

/-- Two faults on different flags, one after the other. -/
def injections : List Label :=
  [.inject sampleSha "productCatalogFailure" "20260101T000000Z-",
    .inject sampleSha "paymentFailure" "20260101T000001Z-"]

/-- **All operations report that they are restored, and a fault is active.** -/
theorem not_restored_overlapping : ∃ s, Reachable (step sampleHashes) { world := sampleWorld } s ∧
    AllRestored s.world ∧ s.world.flags ≠ sampleWorld.flags := by
  let labels := injections ++ [.restore sampleSha firstOperation, .restore sampleSha secondOperation]
  have htest : test (step sampleHashes) (fun _ _ => true)
      (fun s => s.active = [] && s.world.flags ≠ sampleWorld.flags) { world := sampleWorld } labels =
        true := by
    decide +kernel
  obtain ⟨s, hreach, hs⟩ := exists_reachable_of_test (step sampleHashes) labels htest
  rw [Bool.and_eq_true, decide_eq_true_eq, decide_eq_true_eq] at hs
  exact ⟨s, hreach, allRestored_of_active hreach hs.1, hs.2⟩

/-- Restored in the other order, they leave the flags as they were. -/
theorem restored_nested : ∃ s, Reaches (step sampleHashes) (NewestFirst sampleHashes)
      { world := sampleWorld } s ∧ s.last = some firstOperation ∧
    s.world.flags = sampleWorld.flags := by
  let labels := injections ++ [.restore sampleSha secondOperation, .restore sampleSha firstOperation]
  have htest : test (step sampleHashes) (fun s l => decide (NewestFirst sampleHashes s l))
      (fun s => s.active = [] && s.last = some firstOperation) { world := sampleWorld } labels =
        true := by
    decide +kernel
  obtain ⟨s, hreach, hs⟩ := exists_reaches_of_test (step sampleHashes)
    (fun _ _ _ hc => of_decide_eq_true hc) labels htest
  rw [Bool.and_eq_true, decide_eq_true_eq, decide_eq_true_eq] at hs
  have hstart : AllRestored sampleWorld := by
    intro op record hfile
    cases hfile
  exact ⟨s, hreach, hs.2, (restored_iff sampleHashes sampleWorld hstart).2 s hreach
    (allRestored_of_active hreach.reachable hs.1)⟩

end FaultOperations
