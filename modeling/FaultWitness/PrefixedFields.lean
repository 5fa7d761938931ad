/-
**Fields behind their lengths.**

A field is written as its length, in a fixed number of bytes with the highest one first, and its bytes
behind it.  Where fields stand one after another, the first length says where the first field ends, so that
no field is a proper prefix of another one and the fields can be read back.

This module names nothing of a program; what is hashed of a set of files is written in such fields.

Main definitions:

* `PrefixedFields.toBytes` — the bytes of a number;
* `PrefixedFields.field`, `PrefixedFields.Fits` — a field, and what fits into one.

Main results:

* `PrefixedFields.uniquelyDecodable_of_prefixFree` — a code without prefixes is uniquely decodable;
* `PrefixedFields.uniquelyDecodable_fields` — **fields are uniquely decodable**;
* `PrefixedFields.flatMap_field_inj`, `PrefixedFields.flatMap_pair_inj` — lists of fields, and lists of
  pairs of them, can be read back.
-/

import Mathlib.InformationTheory.Coding.UniquelyDecodable
import Mathlib.Data.List.Infix
import Mathlib.Tactic.Ring

set_option autoImplicit false

namespace PrefixedFields

open InformationTheory

/-! ### Codes without prefixes -/

section Codes

variable {α : Type}

/-- A code of which no word is empty, and none begins with another one, is uniquely decodable. -/
theorem uniquelyDecodable_of_prefixFree {S : Set (List α)} (hempty : [] ∉ S)
    (hpre : ∀ w ∈ S, ∀ w' ∈ S, w <+: w' → w = w') : UniquelyDecodable S := by
  intro words words' hwords hwords' h
  induction words generalizing words' with
  | nil =>
    cases words' with
    | nil => rfl
    | cons w' words' =>
      have hw' := (List.append_eq_nil_iff.1 h.symm).1
      exact absurd (hw' ▸ hwords' w' List.mem_cons_self) hempty
  | cons w words ih =>
    obtain ⟨hw, hwords⟩ := List.forall_mem_cons.1 hwords
    cases words' with
    | nil =>
      have hnil := (List.append_eq_nil_iff.1 h).1
      exact absurd (hnil ▸ hw) hempty
    | cons w' words' =>
      obtain ⟨hw', hrest'⟩ := List.forall_mem_cons.1 hwords'
      rw [List.flatten_cons, List.flatten_cons] at h
      -- Of two first words, the shorter one begins the longer one.
      have hfirst : w = w' := by
        have hleft : w <+: w' ++ words'.flatten := h ▸ List.prefix_append w _
        rcases List.prefix_or_prefix_of_prefix hleft (List.prefix_append w' _) with hle | hle
        · exact hpre w hw w' hw' hle
        · exact (hpre w' hw' w hw hle).symm
      subst hfirst
      rw [ih words' hwords hrest' (List.append_cancel_left h)]

end Codes

/-! ### Numbers -/

/-- The bytes of a number, the highest one first; what does not fit is cut off. -/
def toBytes : ℕ → ℕ → List UInt8
  | 0, _ => []
  | width + 1, n => toBytes width (n / 256) ++ [UInt8.ofNat n]

@[simp] theorem length_toBytes (width n : ℕ) : (toBytes width n).length = width := by
  induction width generalizing n with
  | zero => rfl
  | succ width ih => simp [toBytes, ih]

variable {width : ℕ}

theorem toBytes_inj {n m : ℕ} (hn : n < 256 ^ width) (hm : m < 256 ^ width)
    (h : toBytes width n = toBytes width m) : n = m := by
  induction width generalizing n m with
  | zero =>
    rw [pow_zero] at hn hm
    omega
  | succ width ih =>
    rw [pow_succ] at hn hm
    obtain ⟨hhigh, hlow⟩ := List.append_inj' h rfl
    have hquotient : n / 256 = m / 256 := by
      refine ih ?_ ?_ hhigh
      · exact Nat.div_lt_of_lt_mul (by omega)
      · exact Nat.div_lt_of_lt_mul (by omega)
    have hremainder : n % 256 = m % 256 := by
      have hbyte := congrArg UInt8.toNat (List.singleton_inj.1 hlow)
      simpa using hbyte
    omega

/-! ### Fields -/

/-- A field: its length, and its bytes. -/
def field (width : ℕ) (bytes : List UInt8) : List UInt8 := toBytes width bytes.length ++ bytes

/-- The length can be written. -/
def Fits (width : ℕ) (bytes : List UInt8) : Prop := bytes.length < 256 ^ width

instance (width : ℕ) (bytes : List UInt8) : Decidable (Fits width bytes) :=
  inferInstanceAs (Decidable (bytes.length < 256 ^ width))

theorem eq_of_prefix_field {bytes bytes' : List UInt8} (h : Fits width bytes)
    (h' : Fits width bytes') (hpre : field width bytes <+: field width bytes') :
    bytes = bytes' := by
  obtain ⟨rest, hrest⟩ := hpre
  unfold field at hrest
  rw [List.append_assoc] at hrest
  obtain ⟨hlengths, hbytes⟩ := List.append_inj hrest (by simp)
  have hlength : bytes.length = bytes'.length := toBytes_inj h h' hlengths
  have htail : rest = [] := by
    have hall := congrArg List.length hbytes
    rw [List.length_append] at hall
    exact List.length_eq_zero_iff.1 (by omega)
  rw [htail, List.append_nil] at hbytes
  exact hbytes

/-- **Fields are uniquely decodable.** -/
theorem uniquelyDecodable_fields (hwidth : 0 < width) :
    UniquelyDecodable {w | ∃ bytes, Fits width bytes ∧ field width bytes = w} := by
  refine uniquelyDecodable_of_prefixFree ?_ ?_
  · rintro ⟨bytes, -, hempty⟩
    have hlength := congrArg List.length hempty
    rw [field, List.length_append, length_toBytes, List.length_nil] at hlength
    omega
  · rintro _ ⟨bytes, h, rfl⟩ _ ⟨bytes', h', rfl⟩ hpre
    rw [eq_of_prefix_field h h' hpre]

theorem field_inj {bytes bytes' : List UInt8} (h : Fits width bytes) (h' : Fits width bytes')
    (heq : field width bytes = field width bytes') : bytes = bytes' :=
  eq_of_prefix_field h h' (heq ▸ List.prefix_rfl)

theorem flatMap_field_inj (hwidth : 0 < width) {fields fields' : List (List UInt8)}
    (h : ∀ bytes ∈ fields, Fits width bytes) (h' : ∀ bytes ∈ fields', Fits width bytes)
    (heq : fields.flatMap (field width) = fields'.flatMap (field width)) : fields = fields' := by
  have hwords : fields.map (field width) = fields'.map (field width) := by
    refine uniquelyDecodable_fields hwidth _ _ ?_ ?_ (by rwa [List.flatMap_def, List.flatMap_def] at heq)
    · intro w hw
      obtain ⟨bytes, hbytes, rfl⟩ := List.mem_map.1 hw
      exact ⟨bytes, h bytes hbytes, rfl⟩
    · intro w hw
      obtain ⟨bytes, hbytes, rfl⟩ := List.mem_map.1 hw
      exact ⟨bytes, h' bytes hbytes, rfl⟩
  clear heq
  induction fields generalizing fields' with
  | nil => exact (List.map_eq_nil_iff.1 hwords.symm).symm
  | cons bytes fields ih =>
    cases fields' with
    | nil => cases hwords
    | cons bytes' fields' =>
      obtain ⟨hbytes, hfields⟩ := List.forall_mem_cons.1 h
      obtain ⟨hbytes', hfields'⟩ := List.forall_mem_cons.1 h'
      obtain ⟨hhead, htail⟩ := List.cons_eq_cons.1 hwords
      rw [field_inj hbytes hbytes' hhead, ih hfields hfields' htail]

theorem flatMap_pair_inj (hwidth : 0 < width) {pairs pairs' : List (List UInt8 × List UInt8)}
    (h : ∀ pair ∈ pairs, Fits width pair.1 ∧ Fits width pair.2)
    (h' : ∀ pair ∈ pairs', Fits width pair.1 ∧ Fits width pair.2)
    (heq : pairs.flatMap (fun pair => field width pair.1 ++ field width pair.2) =
      pairs'.flatMap (fun pair => field width pair.1 ++ field width pair.2)) : pairs = pairs' := by
  have hflat : ∀ pairs : List (List UInt8 × List UInt8),
      pairs.flatMap (fun pair => field width pair.1 ++ field width pair.2) =
        (pairs.flatMap fun pair => [pair.1, pair.2]).flatMap (field width) := by
    intro pairs
    induction pairs with
    | nil => rfl
    | cons pair pairs ih => simp [ih]
  have hfits : ∀ {pairs : List (List UInt8 × List UInt8)},
      (∀ pair ∈ pairs, Fits width pair.1 ∧ Fits width pair.2) →
      ∀ bytes ∈ pairs.flatMap fun pair => [pair.1, pair.2], Fits width bytes := by
    intro pairs hpairs bytes hbytes
    obtain ⟨pair, hpair, hmem⟩ := List.mem_flatMap.1 hbytes
    simp only [List.mem_cons, List.not_mem_nil, or_false] at hmem
    rcases hmem with rfl | rfl
    · exact (hpairs pair hpair).1
    · exact (hpairs pair hpair).2
  rw [hflat, hflat] at heq
  have hfields := flatMap_field_inj hwidth (hfits h) (hfits h') heq
  clear heq h h'
  induction pairs generalizing pairs' with
  | nil =>
    cases pairs' with
    | nil => rfl
    | cons pair' pairs' => cases hfields
  | cons pair pairs ih =>
    cases pairs' with
    | nil => cases hfields
    | cons pair' pairs' =>
      simp only [List.flatMap_cons, List.cons_append, List.nil_append, List.cons.injEq] at hfields
      obtain ⟨hfirst, hsecond, hrest⟩ := hfields
      rw [Prod.ext hfirst hsecond, ih hrest]

end PrefixedFields
