/-
**The digest of the files that a result comes from.**

`faultwitness_dev/provenance.py` hashes the files of a worktree.  The inputs are resolved, and each must lie
under the root; a directory stands for the regular files under it, of which links are no part, and a file
for itself.  The files are sorted, each once, and of each the path under the root and the bytes are hashed,
both behind their lengths.

A file system is a snapshot: what lies at which path, where everything but the top lies in a directory.
How a path is resolved is left open.

Main definitions:

* `Provenance.FileSystem` — a snapshot of a file system;
* `Provenance.expandInputs`, `Provenance.contentDigest` — the files of the inputs, and their digest;
* `Provenance.Covered` — the files that the inputs stand for, by their paths under the root.

Main results:

* `Provenance.mem_expandInputs` — what the inputs are expanded to;
* `Provenance.contentDigest_eq` — **what is hashed are the covered files in their order**;
* `Provenance.content_digest_injective` — **digests are equal exactly where the covered files are**.
-/

import FaultWitness.OrderStatistics
import FaultWitness.PrefixedFields
import FaultWitness.Python
import Mathlib.Data.Finset.Sort
import Mathlib.Data.List.Lex
import Mathlib.Data.String.Basic

set_option autoImplicit false

namespace Provenance

open Python PrefixedFields

/-! ### Files -/

abbrev Bytes := List UInt8

/-- The names on the way from the top to a file. -/
abbrev Path := List String

/-- What lies at a path. -/
inductive Entry
  | file (bytes : Bytes)
  | directory
  | symlink
  | other
deriving DecidableEq

/-- What a directory may call something. -/
def ValidName (name : String) : Prop := name ≠ "" ∧ name ≠ "." ∧ name ≠ ".." ∧ '/' ∉ name.toList

/-- A snapshot of a file system. -/
structure FileSystem where
  entries : List (Path × Entry)
  /-- The method `resolve`, which follows links, if it does not raise. -/
  resolve : String → Option Path
  nodup : (entries.map Prod.fst).Nodup
  names : ∀ entry ∈ entries, ∀ name ∈ entry.1, ValidName name
  parents : ∀ path name entry, (path ++ [name], entry) ∈ entries → (path, .directory) ∈ entries

namespace FileSystem

variable (fs : FileSystem)

def get (path : Path) : Option Entry := fs.entries.lookup path

/-- A regular file. -/
def isFile (path : Path) : Bool :=
  match fs.get path with
  | some (.file _) => true
  | _ => false

/-- The method `rglob` for all names, which goes through directories and not through links. -/
def rglob (path : Path) : List Path :=
  (fs.entries.map Prod.fst).filter fun candidate => path <+: candidate ∧ candidate ≠ path

end FileSystem

/-! ### The digest -/

inductive Raised
  | governance (text : String)
  /-- An exception of the language. -/
  | builtin
deriving DecidableEq

def resolve (fs : FileSystem) (item : String) : Except Raised Path :=
  (fs.resolve item).elim (.error .builtin) .ok

/-- The files that an input stands for. -/
def expand (fs : FileSystem) (resolvedRoot : Path) (item : String) : Except Raised (List Path) := do
  let path ← resolve fs item
  if ¬resolvedRoot <+: path then
    throw (.governance "provenance inputs must remain inside the repository")
  match fs.get path with
  | some .directory => .ok ((OrderStatistics.sorted (fs.rglob path)).filter fs.isFile)
  | some (.file _) => .ok [path]
  | _ => .error (.governance ("provenance input is missing or unsupported: " ++ item))

/-- The resolved root, and the files of all inputs. -/
def expandInputs (fs : FileSystem) (root : String) (inputs : List String) :
    Except Raised (Path × List Path) := do
  let resolvedRoot ← resolve fs root
  let files ← inputs.mapM (expand fs resolvedRoot)
  return (resolvedRoot, files.flatten)

/-- The method `as_posix` of a relative path. -/
def asPosix (relative : Path) : String :=
  if relative = [] then "."
  else String.ofList (['/'].intercalate (relative.map String.toList))

/-- The method `encode`. -/
def encode (text : String) : Bytes := text.toUTF8.data.toList

def readBytes (fs : FileSystem) (path : Path) : Except Raised Bytes :=
  match fs.get path with
  | some (.file bytes) => .ok bytes
  | _ => .error .builtin

/-- The length of some bytes in eight bytes, which may be too few. -/
def lengthBytes (bytes : Bytes) : Except Raised Bytes :=
  if Fits 8 bytes then .ok (toBytes 8 bytes.length) else .error .builtin

/-- What the digest is updated with for a file. -/
def update (fs : FileSystem) (resolvedRoot path : Path) : Except Raised Bytes := do
  let relative := encode (asPosix (path.drop resolvedRoot.length))
  let payload ← readBytes fs path
  let relativeLength ← lengthBytes relative
  let payloadLength ← lengthBytes payload
  return relativeLength ++ relative ++ (payloadLength ++ payload)

def contentDigest (sha256 : Bytes → String) (fs : FileSystem) (root : String) (inputs : List String) :
    Except Raised String := do
  let (resolvedRoot, files) ← expandInputs fs root inputs
  let updates ← (files.toFinset.sort (· ≤ ·)).mapM (update fs resolvedRoot)
  return sha256 updates.flatten

/-! ### What the digest is of -/

/-- A file: its path under the root, and its bytes. -/
abbrev Record := Path × Bytes

/-- The files that the inputs stand for: those to which, or to a directory above which, an input is
resolved. -/
def Covered (fs : FileSystem) (root : String) (inputs : List String) : Set Record :=
  {record | ∃ resolvedRoot, fs.resolve root = some resolvedRoot ∧
    (resolvedRoot ++ record.1, .file record.2) ∈ fs.entries ∧
    ∃ item ∈ inputs, ∃ path, fs.resolve item = some path ∧ path <+: resolvedRoot ++ record.1}

/-- The lengths of a path and of a file can be written. -/
def Record.Short (record : Record) : Prop :=
  (encode (asPosix record.1)).length < 2 ^ 64 ∧ record.2.length < 2 ^ 64

/-! ### Paths -/

theorem encode_injective : Function.Injective encode := by
  intro s t h
  have hbytes : s.toUTF8 = t.toUTF8 := ByteArray.ext (Array.toList_inj.1 h)
  rwa [String.toUTF8_eq_toByteArray, String.toUTF8_eq_toByteArray, String.toByteArray_inj] at hbytes

theorem splitOn_asPosix {relative : Path} (h : ∀ name ∈ relative, ValidName name) :
    (asPosix relative).toList.splitOn '/' =
      if relative = [] then [['.']] else relative.map String.toList := by
  unfold asPosix
  by_cases hnil : relative = []
  · rw [if_pos hnil, if_pos hnil]
    decide
  · rw [if_neg hnil, if_neg hnil, String.toList_ofList]
    refine List.splitOn_intercalate '/' ?_ ?_
    · intro name hname
      obtain ⟨text, htext, rfl⟩ := List.mem_map.1 hname
      exact (h text htext).2.2.2
    · simpa using hnil

theorem asPosix_inj {relative relative' : Path} (h : ∀ name ∈ relative, ValidName name)
    (h' : ∀ name ∈ relative', ValidName name) (heq : asPosix relative = asPosix relative') :
    relative = relative' := by
  -- No file is called like the root itself.
  have hroot : ∀ path : Path, (∀ name ∈ path, ValidName name) → path.map String.toList ≠ [['.']] := by
    intro path hpath hdot
    have hnames : path.map String.toList = ["."].map String.toList := hdot
    have hpath' := List.map_injective_iff.2 (fun _ _ => String.toList_inj.1) hnames
    exact (hpath "." (by simp [hpath'])).2.1 rfl
  have hsplit := congrArg (fun text => text.toList.splitOn '/') heq
  rw [splitOn_asPosix h, splitOn_asPosix h'] at hsplit
  by_cases hnil : relative = []
  · by_cases hnil' : relative' = []
    · rw [hnil, hnil']
    · rw [if_pos hnil, if_neg hnil'] at hsplit
      exact absurd hsplit.symm (hroot relative' h')
  · by_cases hnil' : relative' = []
    · rw [if_neg hnil, if_pos hnil'] at hsplit
      exact absurd hsplit (hroot relative h)
    · rw [if_neg hnil, if_neg hnil'] at hsplit
      exact List.map_injective_iff.2 (fun _ _ => String.toList_inj.1) hsplit

theorem append_lt_append (path : Path) {a b : Path} : path ++ a < path ++ b ↔ a < b := by
  induction path with
  | nil => rfl
  | cons name path ih =>
    rw [List.cons_append, List.cons_append, List.cons_lt_cons_iff]
    simp [ih]

/-! ### Expanding -/

variable {fs : FileSystem} {path resolvedRoot : Path} {inputs : List String}

theorem get_eq_some {entry : Entry} : fs.get path = some entry ↔ (path, entry) ∈ fs.entries := by
  have hbeq : (List.instBEq : BEq Path) = instBEqOfDecidableEq := lawful_beq_subsingleton _ _
  rw [FileSystem.get, hbeq]
  exact lookup_eq_some_iff fs.nodup

theorem isFile_iff : fs.isFile path = true ↔ ∃ bytes, (path, .file bytes) ∈ fs.entries := by
  unfold FileSystem.isFile
  constructor
  · intro h
    split at h
    · rename_i bytes hget
      exact ⟨bytes, get_eq_some.1 hget⟩
    · cases h
  · rintro ⟨bytes, hbytes⟩
    rw [get_eq_some.2 hbytes]

theorem directory_of_below {rest : Path} {entry : Entry} (hrest : rest ≠ [])
    (h : (path ++ rest, entry) ∈ fs.entries) : (path, .directory) ∈ fs.entries := by
  induction rest using List.reverseRecOn generalizing entry with
  | nil => exact absurd rfl hrest
  | append_singleton rest name ih =>
    rw [← List.append_assoc] at h
    have hparent := fs.parents _ _ _ h
    by_cases hnil : rest = []
    · rwa [hnil, List.append_nil] at hparent
    · exact ih hnil hparent

theorem resolve_eq_ok {item : String} :
    resolve fs item = .ok path ↔ fs.resolve item = some path := by
  unfold resolve
  cases fs.resolve item with
  | none => simp
  | some found => simp

/-- What an input is expanded to: the files at its path or under it. -/
theorem mem_of_expand {item : String} {files : List Path}
    (h : expand fs resolvedRoot item = .ok files) :
    ∃ path, fs.resolve item = some path ∧ resolvedRoot <+: path ∧
      ∀ file, file ∈ files ↔ path <+: file ∧ ∃ bytes, (file, .file bytes) ∈ fs.entries := by
  obtain ⟨path, hpath, h⟩ := bind_eq_ok.1 h
  obtain ⟨hinside, h⟩ := check_eq_ok.1 h
  refine ⟨path, resolve_eq_ok.1 hpath, not_not.1 hinside, ?_⟩
  intro file
  split at h
  · rename_i hdirectory
    cases h
    rw [List.mem_filter, OrderStatistics.mem_sorted, isFile_iff, FileSystem.rglob, List.mem_filter,
      decide_eq_true_iff]
    constructor
    · rintro ⟨⟨-, hpre, -⟩, hfile⟩
      exact ⟨hpre, hfile⟩
    · rintro ⟨hpre, bytes, hbytes⟩
      refine ⟨⟨List.mem_map_of_mem hbytes, hpre, ?_⟩, bytes, hbytes⟩
      -- A directory is no regular file.
      rintro rfl
      have hboth := hdirectory.symm.trans (get_eq_some.2 hbytes)
      cases hboth
  · rename_i bytes hfile
    cases h
    rw [List.mem_singleton]
    constructor
    · rintro rfl
      exact ⟨List.prefix_rfl, bytes, get_eq_some.1 hfile⟩
    · rintro ⟨⟨rest, rfl⟩, bytes', hbytes'⟩
      by_cases hrest : rest = []
      · rw [hrest, List.append_nil]
      · -- Nothing lies under a file.
        have hdirectory := get_eq_some.2 (directory_of_below hrest hbytes')
        rw [hfile] at hdirectory
        cases hdirectory
  · cases h

/-- **What the inputs are expanded to.** -/
theorem mem_expandInputs {root : String} {files : List Path}
    (h : expandInputs fs root inputs = .ok (resolvedRoot, files)) :
    (∀ file ∈ files, ∃ record ∈ Covered fs root inputs, resolvedRoot ++ record.1 = file) ∧
      ∀ record : Record, record ∈ Covered fs root inputs ↔
        resolvedRoot ++ record.1 ∈ files ∧ (resolvedRoot ++ record.1, .file record.2) ∈ fs.entries := by
  obtain ⟨found, hfound, h⟩ := bind_eq_ok.1 h
  obtain ⟨parts, hparts, h⟩ := bind_eq_ok.1 h
  cases h
  have hroot := resolve_eq_ok.1 hfound
  have hmem : ∀ file, file ∈ parts.flatten ↔
      ∃ item ∈ inputs, ∃ path, fs.resolve item = some path ∧ resolvedRoot <+: path ∧ path <+: file ∧
        ∃ bytes, (file, .file bytes) ∈ fs.entries := by
    intro file
    rw [List.mem_flatten]
    constructor
    · rintro ⟨part, hpart, hfile⟩
      obtain ⟨item, hitem, hexpand⟩ := of_mem_mapM_eq_ok hparts hpart
      obtain ⟨path, hresolve, hinside, hfiles⟩ := mem_of_expand hexpand
      obtain ⟨hpre, hbytes⟩ := (hfiles file).1 hfile
      exact ⟨item, hitem, path, hresolve, hinside, hpre, hbytes⟩
    · rintro ⟨item, hitem, path, hresolve, hinside, hpre, hbytes⟩
      obtain ⟨part, hpart, hexpand⟩ := exists_mem_of_mapM_eq_ok hparts hitem
      obtain ⟨path', hresolve', -, hfiles⟩ := mem_of_expand hexpand
      cases hresolve.symm.trans hresolve'
      exact ⟨part, hpart, (hfiles file).2 ⟨hpre, hbytes⟩⟩
  constructor
  · intro file hfile
    obtain ⟨item, hitem, path, hresolve, hinside, hpre, bytes, hbytes⟩ := (hmem file).1 hfile
    obtain ⟨relative, rfl⟩ := hinside.trans hpre
    exact ⟨(relative, bytes), ⟨resolvedRoot, hroot, hbytes, item, hitem, path, hresolve, hpre⟩, rfl⟩
  · intro record
    constructor
    · rintro ⟨found, hfound', hbytes, item, hitem, path, hresolve, hpre⟩
      cases hroot.symm.trans hfound'
      obtain ⟨part, hpart, hexpand⟩ := exists_mem_of_mapM_eq_ok hparts hitem
      obtain ⟨path', hresolve', hinside, -⟩ := mem_of_expand hexpand
      cases hresolve.symm.trans hresolve'
      exact ⟨(hmem _).2 ⟨item, hitem, path, hresolve, hinside, hpre, record.2, hbytes⟩, hbytes⟩
    · rintro ⟨hfile, hbytes⟩
      obtain ⟨item, hitem, path, hresolve, -, hpre, -⟩ := (hmem _).1 hfile
      exact ⟨resolvedRoot, hroot, hbytes, item, hitem, path, hresolve, hpre⟩

/-! ### The files in their order -/

theorem eq_of_ordered {records records' : List Record} (h : records.Pairwise fun a b => a.1 < b.1)
    (h' : records'.Pairwise fun a b => a.1 < b.1) (hmem : ∀ record, record ∈ records ↔ record ∈ records') :
    records = records' := by
  have hnodup : ∀ {records : List Record}, (records.Pairwise fun a b => a.1 < b.1) → records.Nodup := by
    intro records hrecords
    refine hrecords.imp ?_
    intro a b hlt heq
    exact absurd (heq ▸ hlt) (lt_irrefl a.1)
  refine List.Perm.eq_of_pairwise ?_ h h' ((List.perm_ext_iff_of_nodup (hnodup h) (hnodup h')).2 hmem)
  intro a b _ _ hlt hgt
  exact absurd hgt hlt.asymm

theorem exists_records {covered : Set Record} {paths : List Path}
    (h : ∀ path ∈ paths, ∃ record ∈ covered, resolvedRoot ++ record.1 = path) :
    ∃ records : List Record, (records.map fun record => resolvedRoot ++ record.1) = paths ∧
      ∀ record ∈ records, record ∈ covered := by
  induction paths with
  | nil => exact ⟨[], rfl, nofun⟩
  | cons path paths ih =>
    obtain ⟨⟨record, hrecord, hpath⟩, hpaths⟩ := List.forall_mem_cons.1 h
    obtain ⟨records, hrecords, hcovered⟩ := ih hpaths
    refine ⟨record :: records, ?_, List.forall_mem_cons.2 ⟨hrecord, hcovered⟩⟩
    rw [List.map_cons, hpath, hrecords]

/-- What is hashed of a file. -/
def Record.fields (record : Record) : Bytes := field 8 (encode (asPosix record.1)) ++ field 8 record.2

variable {record : Record}

theorem Record.Short.fits (h : record.Short) :
    Fits 8 (encode (asPosix record.1)) ∧ Fits 8 record.2 := by
  have hbound : 2 ^ 64 = 256 ^ 8 := by norm_num
  unfold Fits
  rw [← hbound]
  exact h

theorem update_eq (hshort : record.Short)
    (hbytes : (resolvedRoot ++ record.1, .file record.2) ∈ fs.entries) :
    update fs resolvedRoot (resolvedRoot ++ record.1) = .ok record.fields := by
  obtain ⟨hpath, hpayload⟩ := hshort.fits
  have hread : readBytes fs (resolvedRoot ++ record.1) = .ok record.2 := by
    rw [readBytes, get_eq_some.2 hbytes]
  have hrelative : (resolvedRoot ++ record.1).drop resolvedRoot.length = record.1 := List.drop_left
  unfold update
  rw [hrelative]
  exact bind_eq_ok.2 ⟨_, hread, bind_eq_ok.2 ⟨_, if_pos hpath, bind_eq_ok.2 ⟨_, if_pos hpayload, rfl⟩⟩⟩

/-- **What is hashed are the covered files in their order.** -/
theorem contentDigest_eq (sha256 : Bytes → String) {root : String}
    (h : ∃ expanded, expandInputs fs root inputs = .ok expanded)
    (hshort : ∀ record ∈ Covered fs root inputs, record.Short) :
    ∃ records : List Record, (∀ record, record ∈ records ↔ record ∈ Covered fs root inputs) ∧
      (records.Pairwise fun a b => a.1 < b.1) ∧
      contentDigest sha256 fs root inputs = .ok (sha256 (records.flatMap Record.fields)) := by
  obtain ⟨⟨resolvedRoot, files⟩, h⟩ := h
  obtain ⟨hfiles, hcovered⟩ := mem_expandInputs h
  have hpaths : ∀ path ∈ files.toFinset.sort (· ≤ ·), ∃ record ∈ Covered fs root inputs,
      resolvedRoot ++ record.1 = path := by
    intro path hpath
    exact hfiles path (List.mem_toFinset.1 ((Finset.mem_sort _).1 hpath))
  obtain ⟨records, hrecords, hmem⟩ := exists_records hpaths
  refine ⟨records, ?_, ?_, ?_⟩
  · intro record
    refine ⟨hmem record, ?_⟩
    intro hrecord
    obtain ⟨hfile, hbytes⟩ := (hcovered record).1 hrecord
    have hlisted : resolvedRoot ++ record.1 ∈ records.map fun record => resolvedRoot ++ record.1 := by
      rw [hrecords]
      exact (Finset.mem_sort _).2 (List.mem_toFinset.2 hfile)
    -- The record of that path has the same bytes.
    obtain ⟨other, hother, heq⟩ := List.mem_map.1 hlisted
    have hpath : other.1 = record.1 := List.append_cancel_left heq
    have hbytes' := ((hcovered other).1 (hmem other hother)).2
    rw [heq] at hbytes'
    have hsame := (get_eq_some.2 hbytes').symm.trans (get_eq_some.2 hbytes)
    have hcontent : other.2 = record.2 := by
      injection hsame with hsame
      injection hsame
    rw [← Prod.ext hpath hcontent]
    exact hother
  · have hsorted := (Finset.sortedLT_sort files.toFinset).pairwise
    rw [← hrecords, List.pairwise_map] at hsorted
    refine hsorted.imp ?_
    intro a b hlt
    exact (append_lt_append resolvedRoot).1 hlt
  · have hupdates : (files.toFinset.sort (· ≤ ·)).mapM (update fs resolvedRoot) =
        .ok (records.map Record.fields) := by
      rw [← hrecords]
      refine mapM_eq_ok.2 (List.forall₂_map_left_iff.2 (List.forall₂_map_right_iff.2
        (List.forall₂_same.2 ?_)))
      intro record hrecord
      have hrecord' := hmem record hrecord
      exact update_eq (hshort record hrecord') ((hcovered record).1 hrecord').2
    refine bind_eq_ok.2 ⟨_, h, bind_eq_ok.2 ⟨_, hupdates, ?_⟩⟩
    rw [List.flatMap_def]
    rfl

theorem validName_of_covered {root : String} (h : record ∈ Covered fs root inputs) :
    ∀ name ∈ record.1, ValidName name := by
  obtain ⟨resolvedRoot, -, hbytes, -⟩ := h
  intro name hname
  exact fs.names _ hbytes name (List.mem_append.2 (.inr hname))

theorem subset_of_encoded {records records' : List Record}
    (h : ∀ record ∈ records, ∀ name ∈ record.1, ValidName name)
    (h' : ∀ record ∈ records', ∀ name ∈ record.1, ValidName name)
    (hencoded : (records.map fun record => (encode (asPosix record.1), record.2)) =
      records'.map fun record => (encode (asPosix record.1), record.2)) : records ⊆ records' := by
  intro record hrecord
  have hpair := List.mem_map_of_mem
    (f := fun record : Record => (encode (asPosix record.1), record.2)) hrecord
  rw [hencoded] at hpair
  obtain ⟨other, hother, hsame⟩ := List.mem_map.1 hpair
  obtain ⟨hpath, hbytes⟩ := Prod.mk.inj hsame
  have hrelative := asPosix_inj (h' other hother) (h record hrecord) (encode_injective hpath)
  rw [← Prod.ext hrelative hbytes]
  exact hother

/-- **Digests are equal exactly where the covered files are**, their paths under the root and their bytes;
so the order of the inputs, and how often they cover a file, do not matter. -/
theorem content_digest_injective {sha256 : Bytes → String} (hsha : Function.Injective sha256)
    {fs fs' : FileSystem} {root root' : String} {inputs inputs' : List String}
    (hexpanded : ∃ expanded, expandInputs fs root inputs = .ok expanded)
    (hexpanded' : ∃ expanded, expandInputs fs' root' inputs' = .ok expanded)
    (hshort : ∀ record ∈ Covered fs root inputs, record.Short)
    (hshort' : ∀ record ∈ Covered fs' root' inputs', record.Short) :
    ∃ digest digest', contentDigest sha256 fs root inputs = .ok digest ∧
      contentDigest sha256 fs' root' inputs' = .ok digest' ∧
      (digest = digest' ↔ Covered fs root inputs = Covered fs' root' inputs') := by
  obtain ⟨records, hmem, hordered, hdigest⟩ := contentDigest_eq sha256 hexpanded hshort
  obtain ⟨records', hmem', hordered', hdigest'⟩ := contentDigest_eq sha256 hexpanded' hshort'
  refine ⟨_, _, hdigest, hdigest', ?_⟩
  constructor
  · intro heq
    have hfields : (records.map fun record => (encode (asPosix record.1), record.2)) =
        records'.map fun record => (encode (asPosix record.1), record.2) := by
      refine flatMap_pair_inj (by decide : 0 < 8) ?_ ?_ ?_
      · intro pair hpair
        obtain ⟨record, hrecord, rfl⟩ := List.mem_map.1 hpair
        exact (hshort record ((hmem record).1 hrecord)).fits
      · intro pair hpair
        obtain ⟨record, hrecord, rfl⟩ := List.mem_map.1 hpair
        exact (hshort' record ((hmem' record).1 hrecord)).fits
      · rw [List.flatMap_map, List.flatMap_map]
        exact hsha heq
    have hnames : ∀ record ∈ records, ∀ name ∈ record.1, ValidName name := by
      intro record hrecord
      exact validName_of_covered ((hmem record).1 hrecord)
    have hnames' : ∀ record ∈ records', ∀ name ∈ record.1, ValidName name := by
      intro record hrecord
      exact validName_of_covered ((hmem' record).1 hrecord)
    ext record
    rw [← hmem, ← hmem']
    constructor
    · intro hrecord
      exact subset_of_encoded hnames hnames' hfields hrecord
    · intro hrecord
      exact subset_of_encoded hnames' hnames hfields.symm hrecord
  · intro hcovered
    have hsame : records = records' := by
      refine eq_of_ordered hordered hordered' ?_
      intro record
      rw [hmem, hmem', hcovered]
    rw [hsame]

/-! ### A snapshot -/

/-- The bytes as characters, in place of a hash. -/
def sampleSha (bytes : Bytes) : String := String.ofList (bytes.map fun byte => Char.ofNat byte.toNat)

theorem sampleSha_injective : Function.Injective sampleSha := by
  have hvalue : ∀ byte : UInt8, (Char.ofNat byte.toNat).toNat = byte.toNat := by
    intro byte
    have hsize := byte.toNat_lt
    have hvalid : byte.toNat.isValidChar := .inl (by omega)
    rw [Char.ofNat, dif_pos hvalid]
    rfl
  have hchar : Function.Injective fun byte : UInt8 => Char.ofNat byte.toNat := by
    intro byte byte' h
    have hnat := congrArg Char.toNat h
    simp only [hvalue] at hnat
    exact UInt8.toNat_inj.1 hnat
  intro bytes bytes' h
  exact List.map_injective_iff.2 hchar (String.ofList_inj.1 h)

def sampleEntries : List (Path × Entry) :=
  [([], .directory), (["r"], .directory), (["r", "src"], .directory), (["r", "src", "a"], .file [1, 2]),
    (["r", "src", "b"], .file []), (["r", "src", "link"], .symlink)]

def sampleFileSystem : FileSystem where
  entries := sampleEntries
  resolve item := some (((item.toList.splitOn '/').map String.ofList).filter fun name => name ≠ "")
  nodup := by decide
  names := by
    intro entry hentry name hname
    have hall : ∀ entry ∈ sampleEntries, ∀ name ∈ entry.1,
        name ≠ "" ∧ name ≠ "." ∧ name ≠ ".." ∧ '/' ∉ name.toList := by decide
    exact hall entry hentry name hname
  parents := by
    intro path name entry hentry
    have hall : ∀ entry ∈ sampleEntries, entry.1 ≠ [] → (entry.1.dropLast, .directory) ∈ sampleEntries := by
      decide
    simpa using hall _ hentry (by simp)

theorem short_sample (inputs : List String) :
    ∀ record ∈ Covered sampleFileSystem "/r" inputs, record.Short := by
  rintro record ⟨resolvedRoot, hroot, hbytes, -⟩
  have hpre : resolvedRoot = ["r"] := Option.some.inj (hroot.symm.trans (by decide))
  have hall : ∀ entry ∈ sampleEntries, ∀ bytes, entry.2 = .file bytes →
      (encode (asPosix (entry.1.drop 1))).length < 2 ^ 64 ∧ bytes.length < 2 ^ 64 := by
    intro entry hentry bytes hfile
    simp only [sampleEntries, List.mem_cons, List.not_mem_nil, or_false] at hentry
    rcases hentry with rfl | rfl | rfl | rfl | rfl | rfl <;> cases hfile <;> decide +kernel
  subst hpre
  exact hall _ hbytes record.2 rfl

/-- A directory, and its files one by one and it again. -/
theorem content_digest_injective_sample : ∃ digest digest',
    contentDigest sampleSha sampleFileSystem "/r" ["/r/src"] = .ok digest ∧
      contentDigest sampleSha sampleFileSystem "/r" ["/r/src/b", "/r/src/a", "/r/src"] = .ok digest' ∧
      (digest = digest' ↔ Covered sampleFileSystem "/r" ["/r/src"] =
        Covered sampleFileSystem "/r" ["/r/src/b", "/r/src/a", "/r/src"]) :=
  content_digest_injective sampleSha_injective ⟨_, rfl⟩ ⟨_, rfl⟩ (short_sample _) (short_sample _)

end Provenance
