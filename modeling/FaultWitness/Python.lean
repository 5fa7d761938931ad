/-
**The parts of the Python standard library that the modelled code computes with.**

The stores hash canonical JSON documents, print counters with `str` and parse cursors with `int`.
This module gives those three functions, following their documented behaviour:

* `Python.Json`, `Python.Json.dumps` — JSON values and their canonical text, as
  `json.dumps(value, sort_keys=True, separators=(",", ":"), ensure_ascii=True)` prints it;
* `Python.intParse` — `int(text)` on a string, `none` where Python raises `ValueError`: blanks around
  the number, one optional sign, decimal digits of any script, single underscores between digits,
  and at most 4300 digits;
* `Python.str` — `str(n)` of a non-negative counter.

The general facts needed about them are that `int` refuses the empty text and that `str` is injective.

A function that raises is one in `Except`.  The lemmas on blocks, checks, comprehensions and loops say
when such a function ends normally, and with which exception it does not.
-/

import Mathlib.Data.List.Sort
import Mathlib.Data.List.AList
import Mathlib.Algebra.GroupWithZero.Nat
import Mathlib.Data.List.Infix

set_option autoImplicit false

namespace Python

/-! ### Exceptions -/

variable {ε α β : Type} {f : α → Except ε β} {err : ε} {as : List α} {bs : List β}

theorem bind_eq_ok {x : Except ε α} {b : β} : (x >>= f) = .ok b ↔ ∃ a, x = .ok a ∧ f a = .ok b := by
  cases x with
  | error err => simp [bind, Except.bind]
  | ok a => simp [bind, Except.bind]

theorem bind_eq_error {x : Except ε α} :
    (x >>= f) = .error err ↔ x = .error err ∨ ∃ a, x = .ok a ∧ f a = .error err := by
  cases x with
  | error err' => simp [bind, Except.bind]
  | ok a => simp [bind, Except.bind]

theorem guard_eq_ok {p : Prop} [Decidable p] {u : Unit} :
    (if p then throw err else pure () : Except ε Unit) = .ok u ↔ ¬ p := by
  by_cases hp : p
  · simp [hp, throw, throwThe, MonadExceptOf.throw]
  · simp [hp, pure, Except.pure]

theorem check_eq_ok {p : Prop} [Decidable p] {x : Except ε β} {b : β} :
    (if p then throw err >>= f else x : Except ε β) = .ok b ↔ ¬ p ∧ x = .ok b := by
  by_cases hp : p
  · simp [hp, throw, throwThe, MonadExceptOf.throw, bind, Except.bind]
  · simp [hp]

theorem mapM_eq_ok : as.mapM f = .ok bs ↔ List.Forall₂ (fun a b => f a = .ok b) as bs := by
  induction as generalizing bs with
  | nil =>
    rw [List.mapM_nil, List.forall₂_nil_left_iff]
    simp [pure, Except.pure, eq_comm]
  | cons a as ih =>
    rw [List.mapM_cons, bind_eq_ok, List.forall₂_cons_left_iff]
    constructor
    · rintro ⟨b, hb, h⟩
      obtain ⟨rest, hrest, h⟩ := bind_eq_ok.1 h
      cases h
      exact ⟨b, rest, hb, ih.1 hrest, rfl⟩
    · rintro ⟨b, rest, hb, hrest, rfl⟩
      exact ⟨b, hb, bind_eq_ok.2 ⟨rest, ih.2 hrest, rfl⟩⟩

theorem mapM_congr {g : α → Except ε β} (h : ∀ a ∈ as, f a = g a) : as.mapM f = as.mapM g := by
  induction as with
  | nil => rfl
  | cons a as ih =>
    rw [List.mapM_cons, List.mapM_cons, h a List.mem_cons_self,
      ih fun a' ha' => h a' (List.mem_cons_of_mem a ha')]

theorem exists_mapM_eq_ok (h : ∀ a ∈ as, ∃ b, f a = .ok b) : ∃ bs, as.mapM f = .ok bs := by
  induction as with
  | nil => exact ⟨[], rfl⟩
  | cons a as ih =>
    obtain ⟨b, hb⟩ := h a List.mem_cons_self
    obtain ⟨bs, hbs⟩ := ih fun a' ha' => h a' (List.mem_cons_of_mem a ha')
    exact ⟨b :: bs, mapM_eq_ok.2 (List.Forall₂.cons hb (mapM_eq_ok.1 hbs))⟩

theorem mem_of_mapM_eq_ok (h : as.mapM f = .ok bs) {a : α} (ha : a ∈ as) : ∃ b, f a = .ok b := by
  induction mapM_eq_ok.1 h with
  | nil => cases ha
  | cons hhead hrest ih =>
    rcases List.mem_cons.1 ha with rfl | ha
    · exact ⟨_, hhead⟩
    · exact ih (mapM_eq_ok.2 hrest) ha

theorem exists_mem_of_mapM_eq_ok (h : as.mapM f = .ok bs) {a : α} (ha : a ∈ as) :
    ∃ b ∈ bs, f a = .ok b := by
  induction mapM_eq_ok.1 h with
  | nil => cases ha
  | cons hhead hrest ih =>
    rcases List.mem_cons.1 ha with rfl | ha
    · exact ⟨_, List.mem_cons_self, hhead⟩
    · obtain ⟨b, hb, hfa⟩ := ih (mapM_eq_ok.2 hrest) ha
      exact ⟨b, List.mem_cons_of_mem _ hb, hfa⟩

theorem map_of_mapM_eq_ok {g : β → α} (h : as.mapM f = .ok bs) (hg : ∀ a b, f a = .ok b → g b = a) :
    bs.map g = as := by
  induction mapM_eq_ok.1 h with
  | nil => rfl
  | cons hhead hrest ih => rw [List.map_cons, hg _ _ hhead, ih (mapM_eq_ok.2 hrest)]

theorem of_mem_mapM_eq_ok (h : as.mapM f = .ok bs) {b : β} (hb : b ∈ bs) :
    ∃ a ∈ as, f a = .ok b := by
  induction mapM_eq_ok.1 h with
  | nil => cases hb
  | cons hhead hrest ih =>
    rcases List.mem_cons.1 hb with rfl | hb
    · exact ⟨_, List.mem_cons_self, hhead⟩
    · obtain ⟨a, ha, hfa⟩ := ih (mapM_eq_ok.2 hrest) hb
      exact ⟨a, List.mem_cons_of_mem _ ha, hfa⟩

theorem forall₂_of_mapM {P : α → β → Prop} (h : as.mapM f = .ok bs)
    (hp : ∀ a ∈ as, ∀ b, f a = .ok b → P a b) : List.Forall₂ P as bs := by
  have hall := mapM_eq_ok.1 h
  clear h
  induction hall with
  | nil => exact List.Forall₂.nil
  | @cons a b as bs hab _ ih =>
    refine List.Forall₂.cons (hp a List.mem_cons_self b hab) (ih ?_)
    intro a' ha'
    exact hp a' (List.mem_cons_of_mem a ha')

theorem forM_eq_ok {f : α → Except ε Unit} : as.forM f = .ok () ↔ ∀ a ∈ as, f a = .ok () := by
  induction as with
  | nil => simp [pure, Except.pure]
  | cons a as ih =>
    rw [List.forM, bind_eq_ok, List.forall_mem_cons]
    constructor
    · rintro ⟨u, hu, h⟩
      exact ⟨hu, ih.1 h⟩
    · rintro ⟨hu, h⟩
      exact ⟨(), hu, ih.2 h⟩

theorem forM_eq_error {f : α → Except ε Unit} (h : as.forM f = .error err) :
    ∃ a ∈ as, f a = .error err := by
  induction as with
  | nil => cases h
  | cons a as ih =>
    rw [List.forM] at h
    cases ha : f a with
    | error err' =>
      rw [ha] at h
      cases h
      exact ⟨a, List.mem_cons_self, ha⟩
    | ok u =>
      rw [ha] at h
      obtain ⟨a', ha', herr⟩ := ih h
      exact ⟨a', List.mem_cons_of_mem a ha', herr⟩

/-- A comprehension raises what the first item raises that does. -/
theorem mapM_eq_error_iff :
    as.mapM f = .error err ↔ ∃ before a after, as = before ++ a :: after ∧
      (∀ a' ∈ before, ∃ b, f a' = .ok b) ∧ f a = .error err := by
  induction as with
  | nil =>
    refine iff_of_false nofun ?_
    rintro ⟨before, a, after, heq, -⟩
    exact absurd heq.symm (List.append_ne_nil_of_right_ne_nil _ (List.cons_ne_nil a after))
  | cons a as ih =>
    rw [List.mapM_cons]
    cases ha : f a with
    | error err' =>
      constructor
      · intro h
        cases h
        exact ⟨[], a, as, rfl, nofun, ha⟩
      · rintro ⟨before, a', after, heq, hbefore, herr⟩
        cases before with
        | nil =>
          cases heq
          rw [ha] at herr
          cases herr
          rfl
        | cons first before =>
          cases heq
          obtain ⟨b, hb⟩ := hbefore a List.mem_cons_self
          rw [ha] at hb
          cases hb
    | ok b =>
      have hrest : (Except.ok b >>= fun b => as.mapM f >>= fun bs => pure (b :: bs)) = .error err ↔
          as.mapM f = .error err := by
        cases as.mapM f with
        | error err' => exact Iff.rfl
        | ok bs => exact iff_of_false nofun nofun
      rw [hrest, ih]
      constructor
      · rintro ⟨before, a', after, heq, hbefore, herr⟩
        refine ⟨a :: before, a', after, by rw [heq, List.cons_append], ?_, herr⟩
        exact List.forall_mem_cons.2 ⟨⟨b, ha⟩, hbefore⟩
      · rintro ⟨before, a', after, heq, hbefore, herr⟩
        cases before with
        | nil =>
          cases heq
          rw [ha] at herr
          cases herr
        | cons first before =>
          cases heq
          exact ⟨before, a', after, rfl, fun a'' h => hbefore a'' (List.mem_cons_of_mem _ h), herr⟩

/-- A loop raises what the first item raises that does. -/
theorem forM_eq_error_iff {f : α → Except ε Unit} :
    as.forM f = .error err ↔ ∃ before a after, as = before ++ a :: after ∧
      (∀ a' ∈ before, f a' = .ok ()) ∧ f a = .error err := by
  have hmap : as.forM f = .error err ↔ as.mapM f = .error err := by
    induction as with
    | nil => exact iff_of_false nofun nofun
    | cons a as ih =>
      rw [List.forM, List.mapM_cons]
      cases f a with
      | error err' =>
        constructor
        · intro h
          cases h
          rfl
        · intro h
          cases h
          rfl
      | ok u =>
        change as.forM f = .error err ↔ (as.mapM f >>= fun us => pure (u :: us)) = .error err
        rw [ih]
        cases as.mapM f with
        | error err' => exact Iff.rfl
        | ok us => exact iff_of_false nofun nofun
  rw [hmap, mapM_eq_error_iff]
  refine exists_congr fun before => exists_congr fun a => exists_congr fun after => ?_
  refine and_congr_right fun _ => and_congr_left fun _ => ?_
  exact ⟨fun h a' ha' => (h a' ha').elim fun _ hu => hu, fun h a' ha' => ⟨(), h a' ha'⟩⟩

/-! ### JSON -/

/-- A JSON value.  A number that is not an integer is kept as the text `repr` prints for it. -/
inductive Json
  | null
  | bool (b : Bool)
  | int (n : ℤ)
  | float (repr : String)
  | str (s : String)
  | arr (items : List Json)
  | obj (fields : List (String × Json))
deriving Repr

mutual

/-- Comparing two values. -/
def Json.same : Json → Json → Bool
  | .null, .null => true
  | .bool a, .bool b => a == b
  | .int a, .int b => a == b
  | .float a, .float b => a == b
  | .str a, .str b => a == b
  | .arr as, .arr bs => Json.sameItems as bs
  | .obj as, .obj bs => Json.sameFields as bs
  | _, _ => false

def Json.sameItems : List Json → List Json → Bool
  | [], [] => true
  | a :: as, b :: bs => a.same b && Json.sameItems as bs
  | _, _ => false

def Json.sameFields : List (String × Json) → List (String × Json) → Bool
  | [], [] => true
  | (k, a) :: as, (l, b) :: bs => k == l && a.same b && Json.sameFields as bs
  | _, _ => false

end

mutual

theorem Json.same_iff : ∀ a b : Json, a.same b = true ↔ a = b
  | .null, b => by cases b <;> simp [Json.same]
  | .bool a, b => by cases b <;> simp [Json.same]
  | .int a, b => by cases b <;> simp [Json.same]
  | .float a, b => by cases b <;> simp [Json.same]
  | .str a, b => by cases b <;> simp [Json.same]
  | .arr as, b => by cases b <;> simp [Json.same, Json.sameItems_iff as]
  | .obj as, b => by cases b <;> simp [Json.same, Json.sameFields_iff as]

theorem Json.sameItems_iff : ∀ as bs : List Json, Json.sameItems as bs = true ↔ as = bs
  | [], bs => by cases bs <;> simp [Json.sameItems]
  | a :: as, bs => by cases bs <;> simp [Json.sameItems, Json.same_iff a, Json.sameItems_iff as]

theorem Json.sameFields_iff :
    ∀ as bs : List (String × Json), Json.sameFields as bs = true ↔ as = bs
  | [], bs => by cases bs <;> simp [Json.sameFields]
  | (k, a) :: as, bs => by
    rcases bs with _ | ⟨⟨l, b⟩, bs⟩
    · simp [Json.sameFields]
    · simp [Json.sameFields, Json.same_iff a, Json.sameFields_iff as]

end

instance : DecidableEq Json := fun a b => decidable_of_iff _ (Json.same_iff a b)

/-- Four lower-case hexadecimal digits. -/
def hex4 (n : ℕ) : String :=
  String.ofList ([n / 4096 % 16, n / 256 % 16, n / 16 % 16, n % 16].map Nat.digitChar)

/-- One character of a JSON string with `ensure_ascii`; beyond the basic plane a character is
written as a surrogate pair. -/
def escape (c : Char) : String :=
  if c = '"' then "\\\""
  else if c = '\\' then "\\\\"
  else if c = '\n' then "\\n"
  else if c = '\r' then "\\r"
  else if c = '\t' then "\\t"
  else if c.toNat = 0x08 then "\\b"
  else if c.toNat = 0x0c then "\\f"
  else if 0x20 ≤ c.toNat ∧ c.toNat ≤ 0x7e then c.toString
  else if c.toNat < 0x10000 then "\\u" ++ hex4 c.toNat
  else "\\u" ++ hex4 (0xd800 + (c.toNat - 0x10000) / 0x400) ++
    "\\u" ++ hex4 (0xdc00 + (c.toNat - 0x10000) % 0x400)

/-- A quoted JSON string. -/
def quote (s : String) : String := "\"" ++ String.join (s.toList.map escape) ++ "\""

mutual

/-- The canonical text of a value: keys sorted, no blanks, ASCII only. -/
def Json.dumps : Json → String
  | .null => "null"
  | .bool b => if b then "true" else "false"
  | .int n => toString n
  | .float repr => repr
  | .str s => quote s
  | .arr items => "[" ++ ",".intercalate (Json.dumpsItems items) ++ "]"
  | .obj fields =>
    "\x7b" ++ ",".intercalate (((Json.dumpsFields fields).insertionSort fun a b => a.1 ≤ b.1).map
      fun f => quote f.1 ++ ":" ++ f.2) ++ "\x7d"

def Json.dumpsItems : List Json → List String
  | [] => []
  | j :: js => j.dumps :: Json.dumpsItems js

def Json.dumpsFields : List (String × Json) → List (String × String)
  | [] => []
  | (k, j) :: fs => (k, j.dumps) :: Json.dumpsFields fs

end

mutual

/-- No string or key of the value holds the character U+0000. -/
def Json.nulFree : Json → Bool
  | .str s => !s.toList.contains '\x00'
  | .arr items => Json.nulFreeItems items
  | .obj fields => Json.nulFreeFields fields
  | _ => true

def Json.nulFreeItems : List Json → Bool
  | [] => true
  | j :: js => j.nulFree && Json.nulFreeItems js

def Json.nulFreeFields : List (String × Json) → Bool
  | [] => true
  | (k, j) :: fs => !k.toList.contains '\x00' && j.nulFree && Json.nulFreeFields fs

end

/-- A text that may be missing, as JSON. -/
def Json.optStr : Option String → Json
  | some s => .str s
  | none => .null

/-! ### Association lists -/

theorem lookup_eq_some_iff {κ α : Type} [DecidableEq κ] {fs : List (κ × α)}
    (h : (fs.map Prod.fst).Nodup) {k : κ} {a : α} : fs.lookup k = some a ↔ (k, a) ∈ fs := by
  induction fs with
  | nil => simp
  | cons f fs ih =>
    obtain ⟨l, b⟩ := f
    rw [List.map_cons, List.nodup_cons] at h
    rw [List.lookup_cons, List.mem_cons, Prod.mk.injEq]
    by_cases hk : k = l
    · subst hk
      have hnot : (k, a) ∉ fs := fun hm => h.1 (List.mem_map.2 ⟨_, hm, rfl⟩)
      simp [hnot, eq_comm]
    · have hbeq : (k == l) = false := by simpa using hk
      simp [hbeq, hk, ih h.2]

/-! ### Integers as text -/

/-- The code points of the digit zero in every script that has decimal digits. -/
def zeros : List ℕ :=
  [0x30, 0x660, 0x6f0, 0x7c0, 0x966, 0x9e6, 0xa66, 0xae6, 0xb66, 0xbe6, 0xc66, 0xce6, 0xd66, 0xde6,
    0xe50, 0xed0, 0xf20, 0x1040, 0x1090, 0x17e0, 0x1810, 0x1946, 0x19d0, 0x1a80, 0x1a90, 0x1b50,
    0x1bb0, 0x1c40, 0x1c50, 0xa620, 0xa8d0, 0xa900, 0xa9d0, 0xa9f0, 0xaa50, 0xabf0, 0xff10, 0x104a0,
    0x10d30, 0x11066, 0x110f0, 0x11136, 0x111d0, 0x112f0, 0x11450, 0x114d0, 0x11650, 0x116c0,
    0x11730, 0x118e0, 0x11950, 0x11c50, 0x11d50, 0x11da0, 0x11f50, 0x16a60, 0x16ac0, 0x16b50,
    0x1d7ce, 0x1d7d8, 0x1d7e2, 0x1d7ec, 0x1d7f6, 0x1e140, 0x1e2f0, 0x1e4f0, 0x1e950, 0x1fbf0]

/-- The value of a decimal digit. -/
def decimal (c : Char) : Option ℕ :=
  (zeros.find? fun z => z ≤ c.toNat ∧ c.toNat < z + 10).map fun z => c.toNat - z

/-- A character that `int` skips around a number.  In a text of ASCII characters only the six
blanks of C count. -/
def isBlank (ascii : Bool) (c : Char) : Bool :=
  let n := c.toNat
  (9 ≤ n && n ≤ 13) || n == 32 ||
    (!ascii && ((28 ≤ n && n ≤ 31) || n == 0x85 || n == 0xa0 || n == 0x1680 ||
      (0x2000 ≤ n && n ≤ 0x200a) || n == 0x2028 || n == 0x2029 || n == 0x202f || n == 0x205f ||
      n == 0x3000))

/-- Digits with single underscores between them, most significant first, on top of the digits
`seen` so far; `after` says whether the last character was a digit. -/
def digits (seen : List ℕ) (after : Bool) : List Char → Option (List ℕ)
  | [] => if after then some seen.reverse else none
  | c :: cs =>
    if c = '_' then if after then digits seen false cs else none
    else
      match decimal c with
      | some d => digits (d :: seen) true cs
      | none => none

/-- The number written by a list of decimal digits. -/
def ofDigits (ds : List ℕ) : ℕ := ds.foldl (fun n d => 10 * n + d) 0

/-- Parsing `int(text)`; `none` is `ValueError`. -/
def intParse (s : String) : Option ℤ :=
  let blank := isBlank (s.toList.all fun c => c.toNat < 128)
  let body := ((s.toList.dropWhile blank).reverse.dropWhile blank).reverse
  let (negative, rest) :=
    match body with
    | '-' :: cs => (true, cs)
    | '+' :: cs => (false, cs)
    | cs => (false, cs)
  match digits [] false rest with
  | some ds =>
    if ds.length ≤ 4300 then
      some (if negative then -(ofDigits ds : ℤ) else (ofDigits ds : ℤ))
    else none
  | none => none

/-- Printing `str(n)` of a counter. -/
def str (n : ℕ) : String := toString n

@[simp] theorem intParse_empty : intParse "" = none := by decide

theorem toList_str (n : ℕ) : (str n).toList = Nat.toDigits 10 n := Nat.toList_repr

theorem str_injective : Function.Injective str := by
  intro m n h
  have hd : Nat.toDigits 10 m = Nat.toDigits 10 n := by
    rw [← toList_str, ← toList_str, h]
  rw [← Nat.ofDigitChars_ten_toDigits (n := m), hd, Nat.ofDigitChars_ten_toDigits]

theorem append_cons_inj {α : Type} {a : α} {x y z w : List α} (hx : a ∉ x) (hy : a ∉ y)
    (h : x ++ a :: z = y ++ a :: w) : x = y ∧ z = w := by
  rcases List.append_eq_append_iff.1 h with ⟨c, rfl, hc⟩ | ⟨c, rfl, hc⟩ <;> cases c with
  | nil => simpa [eq_comm] using hc
  | cons b c => simp_all

theorem append_underscore_str_inj {a b : String} {m n : ℕ}
    (h : a ++ "_" ++ str m = b ++ "_" ++ str n) : a = b ∧ m = n := by
  have hl : a.toList ++ '_' :: Nat.toDigits 10 m = b.toList ++ '_' :: Nat.toDigits 10 n := by
    have := congrArg String.toList h
    simpa [String.toList_append, toList_str] using this
  -- the counters hold no underscore, so the last one separates the two parts
  have hr := congrArg List.reverse hl
  simp only [List.reverse_append, List.reverse_cons, List.append_assoc, List.singleton_append] at hr
  have hu : ∀ k : ℕ, '_' ∉ (Nat.toDigits 10 k).reverse := by
    intro k hk
    exact Nat.underscore_not_in_toDigits (List.mem_reverse.1 hk)
  obtain ⟨hd, hs⟩ := append_cons_inj (hu m) (hu n) hr
  refine ⟨String.toList_inj.1 (List.reverse_inj.1 hs), str_injective ?_⟩
  refine String.toList_inj.1 ?_
  rw [toList_str, toList_str]
  exact List.reverse_inj.1 hd

end Python
