/-
**Texts of flat objects.**

The canonical text of an object whose values are texts, integers, `null` and lists of texts determines
the object, whatever the size of its integers.  Each value ends where the next comma or bracket
stands, so two texts can be read side by side from the left.

Main definitions:

* `Python.Json.Separable` — two values whose texts can be told apart.

Main results:

* `Python.Json.flat_inj` — **objects with the same sorted keys and separable values have different
  texts if they differ**.
-/

import FaultWitness.JsonCodec

set_option autoImplicit false

namespace Python

/-- What may follow a value inside an object or a list. -/
def Follows (rest : List Char) : Prop := ∃ c cs, rest = c :: cs ∧ (c = ',' ∨ c = ']' ∨ c = '\x7d')

variable {rest : List Char}

theorem Follows.stops (h : Follows rest) : Stops rest := by
  obtain ⟨c, cs, rfl, rfl | rfl | rfl⟩ := h <;> rfl

theorem follows_encloseTail {close : Char} (hclose : close = ']' ∨ close = '\x7d') (ts : List (List Char))
    (rest : List Char) : Follows (encloseTail close ts ++ rest) := by
  cases ts with
  | nil => exact ⟨close, rest, rfl, .inr hclose⟩
  | cons t ts => exact ⟨',', _, rfl, .inl rfl⟩

theorem follows_fields (ts : List (List Char)) : Follows (encloseTail '\x7d' ts) := by
  have h : Follows (encloseTail '\x7d' ts ++ []) := follows_encloseTail (.inr rfl) ts []
  rwa [List.append_nil] at h

/-- Two values are the same if their texts, each with something behind it, are. -/
def Json.Separable (j k : Json) : Prop :=
  ∀ rest rest', Follows rest → Follows rest' → j.text ++ rest = k.text ++ rest' → j = k ∧ rest = rest'

variable {rest' : List Char}

theorem quote_inj {s t : String} (h : (quote s).toList ++ rest = (quote t).toList ++ rest') :
    s = t ∧ rest = rest' := by
  rw [toList_quote, toList_quote] at h
  simp only [List.cons_append, List.append_assoc, List.cons.injEq, true_and] at h
  have hscan := congrArg scanString h
  rw [scanString_quote, scanString_quote] at hscan
  exact Prod.mk.inj (Option.some.inj hscan)

theorem toList_toString_inj {n m : ℤ} (h : (toString n).toList = (toString m).toList) : n = m := by
  have hdigits : ∀ {a b : ℕ}, Nat.toDigits 10 a = Nat.toDigits 10 b → a = b := fun hab => by
    have hvalue := congrArg (fun ds => Nat.ofDigitChars 10 ds 0) hab
    simpa only [Nat.ofDigitChars_ten_toDigits] using hvalue
  have hsign : ∀ {a : ℕ} {ds : List Char}, Nat.toDigits 10 a ≠ '-' :: ds := fun {a ds} hds => by
    have hdigit := Nat.isDigit_of_mem_toDigits (b := 10) (n := a) (c := '-') (by decide) (by decide)
      (by rw [hds]; exact List.mem_cons_self)
    exact absurd hdigit (by decide)
  rw [toList_toString, toList_toString] at h
  split at h <;> split at h
  · have := hdigits h
    omega
  · exact absurd h hsign
  · exact absurd h.symm hsign
  · have := hdigits (List.cons.inj h).2
    omega

theorem toString_inj {n m : ℤ} (hrest : Stops rest) (hrest' : Stops rest')
    (h : (toString n).toList ++ rest = (toString m).toList ++ rest') : n = m ∧ rest = rest' := by
  obtain ⟨htake, hdrop⟩ := takeWhile_isNumeric (all_isNumeric_toString n) hrest
  obtain ⟨htake', hdrop'⟩ := takeWhile_isNumeric (all_isNumeric_toString m) hrest'
  rw [h, htake'] at htake
  rw [h, hdrop'] at hdrop
  exact ⟨toList_toString_inj htake.symm, hdrop.symm⟩

theorem toString_ne_null {n : ℤ} : (toString n).toList ++ rest ≠ "null".toList ++ rest' := by
  obtain ⟨c, cs, hcs, hc⟩ := exists_numeric (all_isNumeric_toString n) (toString_ne_nil n)
  intro h
  rw [hcs] at h
  have hhead : c = 'n' := (List.cons.inj h).1
  subst hhead
  exact absurd hc (by decide)

theorem separable_str (s t : String) : (Json.str s).Separable (.str t) := fun _ _ _ _ h =>
  ⟨congrArg Json.str (quote_inj h).1, (quote_inj h).2⟩

theorem separable_int (n m : ℤ) : (Json.int n).Separable (.int m) := fun _ _ hrest hrest' h =>
  ⟨congrArg Json.int (toString_inj hrest.stops hrest'.stops h).1,
    (toString_inj hrest.stops hrest'.stops h).2⟩

theorem separable_null : Json.null.Separable .null := fun _ _ _ _ h =>
  ⟨rfl, List.append_cancel_left h⟩

theorem separable_optStr (s t : Option String) : (Json.optStr s).Separable (.optStr t) := by
  cases s with
  | none =>
    cases t with
    | none => exact separable_null
    | some t =>
      intro rest rest' _ _ h
      rw [Json.optStr, Json.optStr, Json.text, Json.text, toList_quote] at h
      cases h
  | some s =>
    cases t with
    | none =>
      intro rest rest' _ _ h
      rw [Json.optStr, Json.optStr, Json.text, Json.text, toList_quote] at h
      cases h
    | some t => exact separable_str s t

theorem separable_null_int (n : ℤ) : Json.null.Separable (.int n) := fun _ _ _ _ h =>
  absurd h.symm toString_ne_null

theorem separable_int_null (n : ℤ) : (Json.int n).Separable .null := fun _ _ _ _ h =>
  absurd h toString_ne_null

theorem strings_inj : ∀ {ss ts : List String} {rest rest' : List Char},
    encloseTail ']' (Json.textItems (ss.map .str)) ++ rest =
      encloseTail ']' (Json.textItems (ts.map .str)) ++ rest' → ss = ts ∧ rest = rest'
  | [], [], rest, rest', h => ⟨rfl, (List.cons.inj h).2⟩
  | [], t :: ts, rest, rest', h => absurd (List.cons.inj h).1 (by decide)
  | s :: ss, [], rest, rest', h => absurd (List.cons.inj h).1 (by decide)
  | s :: ss, t :: ts, rest, rest', h => by
    simp only [List.map_cons, Json.textItems, Json.text, encloseTail, List.cons_append,
      List.append_assoc, List.cons.injEq, true_and] at h
    obtain ⟨rfl, htail⟩ := quote_inj h
    obtain ⟨rfl, hrest⟩ := strings_inj htail
    exact ⟨rfl, hrest⟩

theorem quote_ne_bracket {s : String} {cs rest : List Char} :
    (quote s).toList ++ cs ≠ ']' :: rest := by
  rw [toList_quote]
  intro h
  exact absurd (List.cons.inj h).1 (by decide)

theorem separable_strings (ss ts : List String) :
    (Json.arr (ss.map .str)).Separable (.arr (ts.map .str)) := by
  intro rest rest' hrest hrest' h
  rw [Json.text, Json.text, List.cons_append, List.cons_append, List.cons.injEq] at h
  have h := h.2
  cases ss with
  | nil =>
    cases ts with
    | nil => exact ⟨rfl, (List.cons.inj h).2⟩
    | cons t ts =>
      rw [List.map_cons, Json.textItems, Json.text, enclose, List.append_assoc] at h
      exact absurd h.symm quote_ne_bracket
  | cons s ss =>
    rw [List.map_cons, Json.textItems, Json.text, enclose, List.append_assoc] at h
    cases ts with
    | nil => exact absurd h quote_ne_bracket
    | cons t ts =>
      rw [List.map_cons, Json.textItems, Json.text, enclose, List.append_assoc] at h
      obtain ⟨rfl, htail⟩ := quote_inj h
      obtain ⟨rfl, hrest⟩ := strings_inj htail
      exact ⟨rfl, hrest⟩

/-! ### Objects -/

/-- Two lists of fields have the same keys, and values that can be told apart. -/
def Json.SeparableFields : List (String × Json) → List (String × Json) → Prop :=
  List.Forall₂ fun f g => f.1 = g.1 ∧ f.2.Separable g.2

theorem field_inj {f g : String × Json} (hkey : f.1 = g.1) (hvalue : f.2.Separable g.2)
    (hrest : Follows rest) (hrest' : Follows rest')
    (h : ((quote f.1).toList ++ ':' :: f.2.text) ++ rest =
      ((quote g.1).toList ++ ':' :: g.2.text) ++ rest') : f = g ∧ rest = rest' := by
  rw [hkey, List.append_assoc, List.append_assoc] at h
  have h := List.append_cancel_left h
  rw [List.cons_append, List.cons_append, List.cons.injEq] at h
  have h := h.2
  obtain ⟨hv, hr⟩ := hvalue rest rest' hrest hrest' h
  exact ⟨Prod.ext hkey hv, hr⟩

variable {fs : List (String × Json)}

theorem encloseTail_inj {gs : List (String × Json)} (h : Json.SeparableFields fs gs)
    (heq : encloseTail '\x7d' (Json.textFields fs) = encloseTail '\x7d' (Json.textFields gs)) :
    fs = gs := by
  induction h with
  | nil => rfl
  | @cons f g fs gs hfield _ ih =>
    obtain ⟨k, j⟩ := f
    obtain ⟨l, i⟩ := g
    rw [Json.textFields, Json.textFields, encloseTail, encloseTail] at heq
    obtain ⟨hf, htail⟩ := field_inj hfield.1 hfield.2 (follows_fields _) (follows_fields _) (List.cons.inj heq).2
    rw [hf, ih htail]

/-- The keys of the fields stand in order, and the values have no keys to sort. -/
def Json.Sorted (fs : List (String × Json)) : Prop :=
  (fs.map Prod.fst).Pairwise (· ≤ ·) ∧ ∀ f ∈ fs, f.2.sortKeys = f.2

theorem sortKeys_of_sorted (h : Json.Sorted fs) : (Json.obj fs).sortKeys = .obj fs := by
  rw [Json.sortKeys, sortFields_eq_self h.2]
  have hpairs : fs.Pairwise fun a b => a.1 ≤ b.1 := List.pairwise_map.1 h.1
  rw [hpairs.insertionSort_eq]

/-- **A flat object is determined by its text.** -/
theorem Json.flat_inj {gs : List (String × Json)} (hfs : Json.Sorted fs) (hgs : Json.Sorted gs)
    (h : Json.SeparableFields fs gs) (heq : (Json.obj fs).dumps = (Json.obj gs).dumps) :
    fs = gs := by
  have htext := congrArg String.toList heq
  rw [toList_dumps, toList_dumps, sortKeys_of_sorted hfs, sortKeys_of_sorted hgs, Json.text,
    Json.text] at htext
  have htext := (List.cons.inj htext).2
  cases h with
  | nil => rfl
  | @cons f g fs gs hfield hrest =>
    obtain ⟨k, j⟩ := f
    obtain ⟨l, i⟩ := g
    rw [Json.textFields, Json.textFields, enclose, enclose] at htext
    obtain ⟨hf, htail⟩ := field_inj hfield.1 hfield.2 (follows_fields _) (follows_fields _) htext
    rw [hf, encloseTail_inj hrest htail]

end Python
