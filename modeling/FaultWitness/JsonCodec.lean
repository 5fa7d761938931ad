/-
**Reading JSON back.**

`json.loads` as a parser on characters, and the fact that it inverts `json.dumps`: what it reads from
the canonical text of a value is that value with the keys of its objects sorted.

The parser follows the scanner of the library: blanks between tokens, the four literals and the
three names of floats that are not numbers, numbers with an integer part of at most 4300 digits,
strings with their escapes and surrogate pairs, and objects in which the last value of a key counts.
A float is kept as the text that stands for it, which on what `repr` has printed is the float
itself.  Lone surrogates are no characters here, so a text with one is refused.

Main definitions:

* `Python.Json.loads` — the parser;
* `Python.Json.sound` — the values that can be printed and read back;
* `Python.quoteRaw` — texts printed with `ensure_ascii=False`;
* `Python.Json.sortKeys` — a value with the keys of its objects sorted.

Main results:

* `Python.Json.loads_textWith` — reading the text of a value in its own order gives the value;
* `Python.Json.loads_dumps` — **reading the canonical text of a value gives the value**;
* `Python.Json.loads_dumpsWith` — the same for any way of printing texts that can be read back.
-/

import FaultWitness.Python

set_option autoImplicit false

namespace Python

/-! ### Strings -/

def hexValue (c : Char) : Option ℕ :=
  if '0' ≤ c ∧ c ≤ '9' then some (c.toNat - '0'.toNat)
  else if 'a' ≤ c ∧ c ≤ 'f' then some (c.toNat - 'a'.toNat + 10)
  else if 'A' ≤ c ∧ c ≤ 'F' then some (c.toNat - 'A'.toNat + 10)
  else none

/-- The number written by the four digits of an escape. -/
def unhex4 (a b c d : Char) : Option ℕ := do
  return 4096 * (← hexValue a) + 256 * (← hexValue b) + 16 * (← hexValue c) + (← hexValue d)

def isHigh (n : ℕ) : Bool := 0xd800 ≤ n && n ≤ 0xdbff

def isLow (n : ℕ) : Bool := 0xdc00 ≤ n && n ≤ 0xdfff

/-- The character after a backslash, apart from `u`. -/
def unescape (c : Char) : Option Char :=
  if c = '"' then some '"'
  else if c = '\\' then some '\\'
  else if c = '/' then some '/'
  else if c = 'b' then some (Char.ofNat 0x08)
  else if c = 'f' then some (Char.ofNat 0x0c)
  else if c = 'n' then some '\n'
  else if c = 'r' then some '\r'
  else if c = 't' then some '\t'
  else none

/-- The code units of a string up to its closing quote, and what stands after it. -/
def scanUnits : List Char → Option (List ℕ × List Char)
  | [] => none
  | '"' :: rest => some ([], rest)
  | '\\' :: 'u' :: a :: b :: c :: d :: rest =>
    match unhex4 a b c d with
    | none => none
    | some n => (scanUnits rest).map fun p => (n :: p.1, p.2)
  | '\\' :: c :: rest =>
    match unescape c with
    | none => none
    | some c => (scanUnits rest).map fun p => (c.toNat :: p.1, p.2)
  | c :: rest =>
    if c.toNat < 0x20 then none else (scanUnits rest).map fun p => (c.toNat :: p.1, p.2)

/-- The characters that code units stand for. -/
def joinUnits : List ℕ → Option (List Char)
  | [] => some []
  | n :: m :: rest =>
    if isHigh n && isLow m then
      (joinUnits rest).map fun cs =>
        Char.ofNat (0x10000 + (n - 0xd800) * 0x400 + (m - 0xdc00)) :: cs
    else if isHigh n || isLow n then none
    else (joinUnits (m :: rest)).map fun cs => Char.ofNat n :: cs
  | [n] => if isHigh n || isLow n then none else some [Char.ofNat n]

/-- The string up to its closing quote, and what stands after it. -/
def scanString (cs : List Char) : Option (String × List Char) := do
  let (units, rest) ← scanUnits cs
  let chars ← joinUnits units
  return (String.ofList chars, rest)

/-- The code units that a character is escaped to. -/
def units (c : Char) : List ℕ :=
  if c.toNat < 0x10000 then [c.toNat]
  else [0xd800 + (c.toNat - 0x10000) / 0x400, 0xdc00 + (c.toNat - 0x10000) % 0x400]

theorem hexValue_digitChar : ∀ d, d < 16 → hexValue (Nat.digitChar d) = some d := by decide

theorem toList_hex4 (n : ℕ) : (hex4 n).toList = [Nat.digitChar (n / 4096 % 16),
    Nat.digitChar (n / 256 % 16), Nat.digitChar (n / 16 % 16), Nat.digitChar (n % 16)] := by
  simp [hex4]

theorem unhex4_digitChar {n : ℕ} (h : n < 0x10000) :
    unhex4 (Nat.digitChar (n / 4096 % 16)) (Nat.digitChar (n / 256 % 16))
      (Nat.digitChar (n / 16 % 16)) (Nat.digitChar (n % 16)) = some n := by
  have h4 := hexValue_digitChar (n / 4096 % 16) (by omega)
  have h3 := hexValue_digitChar (n / 256 % 16) (by omega)
  have h2 := hexValue_digitChar (n / 16 % 16) (by omega)
  have h1 := hexValue_digitChar (n % 16) (by omega)
  simp only [unhex4, h4, h3, h2, h1, bind, Option.bind, pure]
  congr 1
  omega

theorem scanUnits_hex4 {n : ℕ} (h : n < 0x10000) (rest : List Char) :
    scanUnits (("\\u" ++ hex4 n).toList ++ rest) =
      (scanUnits rest).map fun p => (n :: p.1, p.2) := by
  have hu : ("\\u" : String).toList = ['\\', 'u'] := rfl
  rw [String.toList_append, toList_hex4, hu]
  simp only [List.cons_append, List.nil_append]
  rw [scanUnits, unhex4_digitChar h]

theorem scanUnits_plain {c : Char} (hquote : c ≠ '"') (hback : c ≠ '\\') (h : 0x20 ≤ c.toNat)
    (rest : List Char) :
    scanUnits (c :: rest) = (scanUnits rest).map fun p => (c.toNat :: p.1, p.2) := by
  rw [scanUnits.eq_def]
  split
  · simp_all
  · simp_all
  · simp_all
  · simp_all
  · rename_i c' rest' hc
    cases hc
    rw [if_neg (by omega)]

theorem scanUnits_escape (c : Char) (rest : List Char) :
    scanUnits ((escape c).toList ++ rest) =
      (scanUnits rest).map fun p => (units c ++ p.1, p.2) := by
  have hlt : c.toNat < 0x110000 := by
    rcases c.valid with h | h
    · exact lt_trans h (by decide)
    · exact h.2
  unfold escape
  -- the escapes of two characters stand for characters of the basic plane
  iterate 5
    split
    · subst_vars
      rfl
  iterate 2
    split
    · rename_i h
      simp only [units, h]
      rfl
  split
  · rename_i h
    rw [units, if_pos (by omega), Char.toString, String.toList_singleton]
    exact scanUnits_plain ‹_› ‹_› h.1 rest
  split
  · rename_i h
    rw [units, if_pos h]
    exact scanUnits_hex4 h rest
  · rename_i h
    rw [units, if_neg h, String.append_assoc, String.toList_append, List.append_assoc,
      scanUnits_hex4 (by omega), scanUnits_hex4 (by omega), Option.map_map]
    rfl

theorem not_surrogate (c : Char) : (isHigh c.toNat || isLow c.toNat) = false := by
  have hv : c.toNat < 0xd800 ∨ 0xdfff < c.toNat := by
    rcases c.valid with h | h
    · exact Or.inl h
    · exact Or.inr h.1
  simp only [isHigh, isLow, Bool.or_eq_false_iff, Bool.and_eq_false_iff, decide_eq_false_iff_not]
  omega

theorem joinUnits_units (c : Char) (us : List ℕ) :
    joinUnits (units c ++ us) = (joinUnits us).map (c :: ·) := by
  unfold units
  split
  · have hs := not_surrogate c
    have hhigh : isHigh c.toNat = false := (Bool.or_eq_false_iff.1 hs).1
    have hlow : isLow c.toNat = false := (Bool.or_eq_false_iff.1 hs).2
    cases us with
    | nil => simp [joinUnits, hhigh, hlow]
    | cons m us => simp [joinUnits, hhigh, hlow]
  · rename_i hge
    have hlt : c.toNat < 0x110000 := by
      rcases c.valid with h | h
      · exact lt_trans h (by decide)
      · exact h.2
    have hhigh : isHigh (0xd800 + (c.toNat - 0x10000) / 0x400) = true := by
      simp only [isHigh, Bool.and_eq_true, decide_eq_true_eq]
      omega
    have hlow : isLow (0xdc00 + (c.toNat - 0x10000) % 0x400) = true := by
      simp only [isLow, Bool.and_eq_true, decide_eq_true_eq]
      omega
    have hsum : 0x10000 + (0xd800 + (c.toNat - 0x10000) / 0x400 - 0xd800) * 0x400 +
        (0xdc00 + (c.toNat - 0x10000) % 0x400 - 0xdc00) = c.toNat := by
      omega
    simp only [List.cons_append, List.nil_append, joinUnits, hhigh, hlow, Bool.and_self, if_true,
      hsum, Char.ofNat_toNat]

theorem scanUnits_escapes (cs rest : List Char) :
    scanUnits (cs.flatMap (fun c => (escape c).toList) ++ '"' :: rest) =
      some (cs.flatMap units, rest) := by
  induction cs with
  | nil => simp [scanUnits]
  | cons c cs ih =>
    rw [List.flatMap_cons, List.append_assoc, scanUnits_escape, ih]
    rfl

theorem joinUnits_flatMap (cs : List Char) : joinUnits (cs.flatMap units) = some cs := by
  induction cs with
  | nil => rfl
  | cons c cs ih => rw [List.flatMap_cons, joinUnits_units, ih, Option.map_some]

theorem toList_quote (s : String) :
    (quote s).toList = '"' :: (s.toList.flatMap (fun c => (escape c).toList) ++ ['"']) := by
  have hq : ("\"" : String).toList = ['"'] := rfl
  rw [quote, String.toList_append, String.toList_append, hq, String.toList_join]
  simp [List.flatMap_map]

/-- **A quoted string is read back.** -/
theorem scanString_quote (s : String) (rest : List Char) :
    scanString (s.toList.flatMap (fun c => (escape c).toList) ++ '"' :: rest) = some (s, rest) := by
  simp [scanString, scanUnits_escapes, joinUnits_flatMap]

/-- One character of a JSON string without `ensure_ascii`: only quotes, backslashes and control
characters are escaped. -/
def escapeRaw (c : Char) : String :=
  if c = '"' ∨ c = '\\' ∨ c.toNat < 0x20 then escape c else c.toString

/-- A quoted JSON string without `ensure_ascii`. -/
def quoteRaw (s : String) : String := "\"" ++ String.join (s.toList.map escapeRaw) ++ "\""

theorem scanUnits_escapeRaw (c : Char) (rest : List Char) :
    scanUnits ((escapeRaw c).toList ++ rest) =
      (scanUnits rest).map fun p => (c.toNat :: p.1, p.2) := by
  rw [escapeRaw]
  split
  · rename_i h
    -- what is escaped belongs to the basic plane
    have hunits : units c = [c.toNat] := by
      rw [units, if_pos]
      rcases h with rfl | rfl | h
      · decide
      · decide
      · omega
    rw [scanUnits_escape, hunits]
    rfl
  · rename_i h
    rw [not_or, not_or] at h
    rw [Char.toString, String.toList_singleton]
    exact scanUnits_plain h.1 h.2.1 (by omega) rest

theorem scanUnits_escapesRaw (cs rest : List Char) :
    scanUnits (cs.flatMap (fun c => (escapeRaw c).toList) ++ '"' :: rest) =
      some (cs.map Char.toNat, rest) := by
  induction cs with
  | nil => simp [scanUnits]
  | cons c cs ih =>
    rw [List.flatMap_cons, List.append_assoc, scanUnits_escapeRaw, ih]
    rfl

theorem joinUnits_map (cs : List Char) : joinUnits (cs.map Char.toNat) = some cs := by
  induction cs with
  | nil => rfl
  | cons c cs ih =>
    obtain ⟨hhigh, hlow⟩ := Bool.or_eq_false_iff.1 (not_surrogate c)
    cases cs with
    | nil => simp [joinUnits, hhigh, hlow]
    | cons d ds =>
      rw [List.map_cons] at ih
      simp [joinUnits, hhigh, hlow, ih]

/-- A way to quote whose strings are read back. -/
def Reads (q : String → String) : Prop :=
  ∀ s, ∃ cs, (q s).toList = '"' :: cs ∧ ∀ rest, scanString (cs ++ rest) = some (s, rest)

theorem reads_quote : Reads quote := by
  intro s
  refine ⟨_, toList_quote s, fun rest => ?_⟩
  rw [List.append_assoc, List.singleton_append, scanString_quote]

theorem toList_quoteRaw (s : String) :
    (quoteRaw s).toList = '"' :: (s.toList.flatMap (fun c => (escapeRaw c).toList) ++ ['"']) := by
  have hq : ("\"" : String).toList = ['"'] := rfl
  rw [quoteRaw, String.toList_append, String.toList_append, hq, String.toList_join]
  simp [List.flatMap_map]

theorem reads_quoteRaw : Reads quoteRaw := by
  intro s
  refine ⟨_, toList_quoteRaw s, fun rest => ?_⟩
  rw [List.append_assoc, List.singleton_append]
  simp [scanString, scanUnits_escapesRaw, joinUnits_map]

/-! ### Numbers -/

/-- A character that can stand in a number. -/
def isNumeric (c : Char) : Bool := c.isDigit || ['-', '+', '.', 'e', 'E'].contains c

/-- The digits of an integer part: no zero in front, and at most as many as `int` takes. -/
def wholeDigits (cs : List Char) : Bool :=
  !cs.isEmpty && cs.all Char.isDigit && (cs == ['0'] || cs.head? != some '0')

/-- An integer. -/
def readInt (cs : List Char) : Option ℤ :=
  match cs with
  | '-' :: ds =>
    if wholeDigits ds && ds.length ≤ 4300 then some (-(Nat.ofDigitChars 10 ds 0 : ℤ)) else none
  | ds => if wholeDigits ds && ds.length ≤ 4300 then some (Nat.ofDigitChars 10 ds 0 : ℤ) else none

/-- Whether the characters are an exponent, or none at all. -/
def isExponent : List Char → Bool
  | [] => true
  | e :: cs =>
    let ds := match cs with
      | '+' :: ds => ds
      | '-' :: ds => ds
      | ds => ds
    (e == 'e' || e == 'E') && !ds.isEmpty && ds.all Char.isDigit

/-- Whether the characters are a number with a fraction or an exponent. -/
def isFloat (cs : List Char) : Bool :=
  let cs := match cs with
    | '-' :: cs => cs
    | cs => cs
  let rest := cs.dropWhile Char.isDigit
  wholeDigits (cs.takeWhile Char.isDigit) &&
    match rest with
    | [] => false
    | '.' :: rest =>
      !(rest.takeWhile Char.isDigit).isEmpty && isExponent (rest.dropWhile Char.isDigit)
    | rest => isExponent rest

/-- A number and what stands after it. -/
def scanNumber (cs : List Char) : Option (Json × List Char) :=
  let token := cs.takeWhile isNumeric
  let rest := cs.dropWhile isNumeric
  match readInt token with
  | some n => some (.int n, rest)
  | none => if isFloat token then some (.float (String.ofList token), rest) else none

/-- The text after a value does not go on with a number. -/
def Stops (rest : List Char) : Prop := rest.head?.all fun c => !isNumeric c

theorem takeWhile_isNumeric {cs rest : List Char} (hcs : cs.all isNumeric) (hrest : Stops rest) :
    (cs ++ rest).takeWhile isNumeric = cs ∧ (cs ++ rest).dropWhile isNumeric = rest := by
  have hall : ∀ c ∈ cs, isNumeric c = true := List.all_eq_true.1 hcs
  have hstop : rest.takeWhile isNumeric = [] ∧ rest.dropWhile isNumeric = rest := by
    cases rest with
    | nil => exact ⟨rfl, rfl⟩
    | cons c rest =>
      have hc : isNumeric c = false := by simpa [Stops] using hrest
      simp [hc]
  rw [List.takeWhile_append_of_pos hall, List.dropWhile_append_of_pos hall, hstop.1, hstop.2]
  exact ⟨List.append_nil cs, rfl⟩

theorem head?_toDigits (n : ℕ) : (Nat.toDigits 10 n).head? = some '0' → n = 0 := by
  induction n using Nat.strong_induction_on with
  | _ n ih =>
    intro h
    rw [Nat.toDigits_eq_if (by decide)] at h
    split at h
    · simpa using h
    · rename_i hn
      rw [List.head?_append_of_ne_nil _ Nat.toDigits_ne_nil] at h
      have := ih (n / 10) (by omega) h
      omega

theorem wholeDigits_toDigits (n : ℕ) : wholeDigits (Nat.toDigits 10 n) = true := by
  have hne : Nat.toDigits 10 n ≠ [] := Nat.toDigits_ne_nil
  have hall : (Nat.toDigits 10 n).all Char.isDigit = true := by
    rw [List.all_eq_true]
    intro c hc
    exact Nat.isDigit_of_mem_toDigits (by decide) (by decide) hc
  have hzero : (Nat.toDigits 10 n == ['0'] || (Nat.toDigits 10 n).head? != some '0') = true := by
    by_cases hn : n = 0
    · subst hn
      rfl
    · have : (Nat.toDigits 10 n).head? ≠ some '0' := fun h => hn (head?_toDigits n h)
      simp [this]
  simp [wholeDigits, hne, hall, hzero]

theorem toList_toString (n : ℤ) : (toString n).toList =
    if 0 ≤ n then Nat.toDigits 10 n.natAbs else '-' :: Nat.toDigits 10 n.natAbs := by
  rw [Int.toString_eq_repr, Int.repr_eq_if]
  split
  · have : n.toNat = n.natAbs := by omega
    rw [Nat.toList_repr, this]
  · have : (-n).toNat = n.natAbs := by omega
    rw [String.toList_append, Nat.toList_repr, this]
    rfl

theorem readInt_toString {n : ℤ} (h : (Nat.toDigits 10 n.natAbs).length ≤ 4300) :
    readInt (toString n).toList = some n := by
  have hok : (wholeDigits (Nat.toDigits 10 n.natAbs) &&
      decide ((Nat.toDigits 10 n.natAbs).length ≤ 4300)) = true := by
    rw [wholeDigits_toDigits, decide_eq_true h, Bool.and_self]
  rw [toList_toString]
  split
  · rename_i hn
    have hhead : ∀ ds, Nat.toDigits 10 n.natAbs ≠ '-' :: ds := by
      intro ds hds
      have := Nat.isDigit_of_mem_toDigits (b := 10) (n := n.natAbs) (c := '-') (by decide) (by decide)
        (by rw [hds]; exact List.mem_cons_self)
      exact absurd this (by decide)
    unfold readInt
    split
    · rename_i ds hds
      exact absurd hds (hhead ds)
    · rw [if_pos hok, Nat.ofDigitChars_ten_toDigits]
      congr 1
      omega
  · rename_i hn
    simp only [readInt]
    rw [if_pos hok, Nat.ofDigitChars_ten_toDigits]
    congr 1
    omega

theorem all_isNumeric_toString (n : ℤ) : (toString n).toList.all isNumeric = true := by
  have hd : (Nat.toDigits 10 n.natAbs).all isNumeric = true := by
    rw [List.all_eq_true]
    intro c hc
    rw [isNumeric, Nat.isDigit_of_mem_toDigits (by decide) (by decide) hc, Bool.true_or]
  rw [toList_toString]
  split
  · exact hd
  · rw [List.all_cons, hd]
    rfl

/-! ### Values -/

def skipBlanks (cs : List Char) : List Char :=
  cs.dropWhile fun c => c = ' ' || c = '\t' || c = '\n' || c = '\r'

/-- A literal and what stands after it. -/
def scanWord (word : String) (j : Json) (cs : List Char) : Option (Json × List Char) :=
  if word.toList.isPrefixOf cs then some (j, cs.drop word.length) else none

/-- A value that holds no other: a string, a literal or a number. -/
def scanScalar (cs : List Char) : Option (Json × List Char) :=
  match cs with
  | '"' :: rest => (scanString rest).map fun p => (.str p.1, p.2)
  | 'n' :: _ => scanWord "null" .null cs
  | 't' :: _ => scanWord "true" (.bool true) cs
  | 'f' :: _ => scanWord "false" (.bool false) cs
  | 'N' :: _ => scanWord "NaN" (.float "NaN") cs
  | 'I' :: _ => scanWord "Infinity" (.float "Infinity") cs
  | '-' :: 'I' :: _ => scanWord "-Infinity" (.float "-Infinity") cs
  | _ => scanNumber cs

/-- The dictionary of a list of pairs: the last value of a key, at the place of the first. -/
def dictOf (pairs : List (String × Json)) : List (String × Json) :=
  pairs.foldl (fun d p => if d.any (·.1 = p.1) then d.map fun q => if q.1 = p.1 then p else q
    else d ++ [p]) []

mutual

/-- A value and what stands after it; `fuel` bounds the nesting. -/
def scanValue : ℕ → List Char → Option (Json × List Char)
  | 0, _ => none
  | fuel + 1, cs =>
    match cs with
    | '[' :: rest =>
      match skipBlanks rest with
      | ']' :: rest => some (.arr [], rest)
      | rest => (scanItems fuel rest).map fun p => (.arr p.1, p.2)
    | '\x7b' :: rest =>
      match skipBlanks rest with
      | '\x7d' :: rest => some (.obj [], rest)
      | rest => (scanFields fuel rest).map fun p => (.obj (dictOf p.1), p.2)
    | cs => scanScalar cs

/-- The items of an array up to its bracket. -/
def scanItems : ℕ → List Char → Option (List Json × List Char)
  | 0, _ => none
  | fuel + 1, cs =>
    match scanValue fuel cs with
    | none => none
    | some (j, rest) =>
      match skipBlanks rest with
      | ',' :: rest => (scanItems fuel (skipBlanks rest)).map fun p => (j :: p.1, p.2)
      | ']' :: rest => some ([j], rest)
      | _ => none

/-- The pairs of an object up to its brace. -/
def scanFields : ℕ → List Char → Option (List (String × Json) × List Char)
  | 0, _ => none
  | fuel + 1, cs =>
    match cs with
    | '"' :: rest =>
      match scanString rest with
      | none => none
      | some (key, rest) =>
        match skipBlanks rest with
        | ':' :: rest =>
          match scanValue fuel (skipBlanks rest) with
          | none => none
          | some (j, rest) =>
            match skipBlanks rest with
            | ',' :: rest =>
              (scanFields fuel (skipBlanks rest)).map fun p => ((key, j) :: p.1, p.2)
            | '\x7d' :: rest => some ([(key, j)], rest)
            | _ => none
        | _ => none
    | _ => none

end

/-- Parsing `json.loads(text)`; `none` is `ValueError`. -/
def Json.loads (text : String) : Option Json :=
  match scanValue (2 * text.length + 1) (skipBlanks text.toList) with
  | some (j, rest) => if skipBlanks rest = [] then some j else none
  | none => none

theorem fromUTF8?_toUTF8 (s : String) : String.fromUTF8? s.toUTF8 = some s := by
  have hvalid : s.toUTF8.IsValidUTF8 := s.isValidUTF8
  rw [String.fromUTF8?, dif_pos hvalid]
  rfl

/-! ### Values that can be read back -/

/-- A text that stands for a float. -/
def isFloatText (s : String) : Bool :=
  ["NaN", "Infinity", "-Infinity"].contains s ||
    (s.toList.all isNumeric && (readInt s.toList).isNone && isFloat s.toList)

mutual

/-- Whether a value can be printed and read back: integers that `str` prints, floats as `repr`
writes them, and one value for each key. -/
def Json.sound : Json → Bool
  | .int n => (Nat.toDigits 10 n.natAbs).length ≤ 4300
  | .float repr => isFloatText repr
  | .arr items => Json.soundItems items
  | .obj fields => (fields.map Prod.fst).Nodup && Json.soundFields fields
  | _ => true

def Json.soundItems : List Json → Bool
  | [] => true
  | j :: js => j.sound && Json.soundItems js

def Json.soundFields : List (String × Json) → Bool
  | [] => true
  | (_, j) :: fs => j.sound && Json.soundFields fs

end

mutual

/-- The value with the keys of its objects sorted. -/
def Json.sortKeys : Json → Json
  | .arr items => .arr (Json.sortItems items)
  | .obj fields => .obj ((Json.sortFields fields).insertionSort fun a b => a.1 ≤ b.1)
  | j => j

def Json.sortItems : List Json → List Json
  | [] => []
  | j :: js => j.sortKeys :: Json.sortItems js

def Json.sortFields : List (String × Json) → List (String × Json)
  | [] => []
  | (k, j) :: fs => (k, j.sortKeys) :: Json.sortFields fs

end

/-- Texts with commas between them and a bracket at the end. -/
def encloseTail (close : Char) : List (List Char) → List Char
  | [] => [close]
  | t :: ts => ',' :: (t ++ encloseTail close ts)

def enclose (close : Char) : List (List Char) → List Char
  | [] => [close]
  | t :: ts => t ++ encloseTail close ts

mutual

/-- The text of a value, in the order in which its keys stand. -/
def Json.text : Json → List Char
  | .null => "null".toList
  | .bool b => if b then "true".toList else "false".toList
  | .int n => (toString n).toList
  | .float repr => repr.toList
  | .str s => (quote s).toList
  | .arr items => '[' :: enclose ']' (Json.textItems items)
  | .obj fields => '\x7b' :: enclose '\x7d' (Json.textFields fields)

def Json.textItems : List Json → List (List Char)
  | [] => []
  | j :: js => j.text :: Json.textItems js

def Json.textFields : List (String × Json) → List (List Char)
  | [] => []
  | (k, j) :: fs => ((quote k).toList ++ ':' :: j.text) :: Json.textFields fs

end

mutual

/-- The text of a value, in the order in which its keys stand, with strings quoted by `q`. -/
def Json.textWith (q : String → String) : Json → List Char
  | .null => "null".toList
  | .bool b => if b then "true".toList else "false".toList
  | .int n => (toString n).toList
  | .float repr => repr.toList
  | .str s => (q s).toList
  | .arr items => '[' :: enclose ']' (Json.textItemsWith q items)
  | .obj fields => '\x7b' :: enclose '\x7d' (Json.textFieldsWith q fields)

def Json.textItemsWith (q : String → String) : List Json → List (List Char)
  | [] => []
  | j :: js => j.textWith q :: Json.textItemsWith q js

def Json.textFieldsWith (q : String → String) : List (String × Json) → List (List Char)
  | [] => []
  | (k, j) :: fs => ((q k).toList ++ ':' :: j.textWith q) :: Json.textFieldsWith q fs

end

mutual

theorem text_eq : ∀ j : Json, j.text = j.textWith quote
  | .null => rfl
  | .bool _ => rfl
  | .int _ => rfl
  | .float _ => rfl
  | .str _ => rfl
  | .arr items => by rw [Json.text, Json.textWith, textItems_eq items]
  | .obj fields => by rw [Json.text, Json.textWith, textFields_eq fields]

theorem textItems_eq : ∀ js : List Json, Json.textItems js = Json.textItemsWith quote js
  | [] => rfl
  | j :: js => by rw [Json.textItems, Json.textItemsWith, text_eq j, textItems_eq js]

theorem textFields_eq :
    ∀ fs : List (String × Json), Json.textFields fs = Json.textFieldsWith quote fs
  | [] => rfl
  | (k, j) :: fs => by rw [Json.textFields, Json.textFieldsWith, text_eq j, textFields_eq fs]

end

mutual

/-- The canonical text of a value, with strings quoted by `q`. -/
def Json.dumpsWith (q : String → String) : Json → String
  | .null => "null"
  | .bool b => if b then "true" else "false"
  | .int n => toString n
  | .float repr => repr
  | .str s => q s
  | .arr items => "[" ++ ",".intercalate (Json.dumpsItemsWith q items) ++ "]"
  | .obj fields =>
    "\x7b" ++ ",".intercalate (((Json.dumpsFieldsWith q fields).insertionSort
      fun a b => a.1 ≤ b.1).map fun f => q f.1 ++ ":" ++ f.2) ++ "\x7d"

def Json.dumpsItemsWith (q : String → String) : List Json → List String
  | [] => []
  | j :: js => j.dumpsWith q :: Json.dumpsItemsWith q js

def Json.dumpsFieldsWith (q : String → String) : List (String × Json) → List (String × String)
  | [] => []
  | (k, j) :: fs => (k, j.dumpsWith q) :: Json.dumpsFieldsWith q fs

end

mutual

theorem dumps_eq : ∀ j : Json, j.dumps = j.dumpsWith quote
  | .null => rfl
  | .bool _ => rfl
  | .int _ => rfl
  | .float _ => rfl
  | .str _ => rfl
  | .arr items => by rw [Json.dumps, Json.dumpsWith, dumpsItems_eq items]
  | .obj fields => by rw [Json.dumps, Json.dumpsWith, dumpsFields_eq fields]

theorem dumpsItems_eq : ∀ js : List Json, Json.dumpsItems js = Json.dumpsItemsWith quote js
  | [] => rfl
  | j :: js => by rw [Json.dumpsItems, Json.dumpsItemsWith, dumps_eq j, dumpsItems_eq js]

theorem dumpsFields_eq :
    ∀ fs : List (String × Json), Json.dumpsFields fs = Json.dumpsFieldsWith quote fs
  | [] => rfl
  | (k, j) :: fs => by rw [Json.dumpsFields, Json.dumpsFieldsWith, dumps_eq j, dumpsFields_eq fs]

end

mutual

/-- How much fuel reading the value takes. -/
def Json.size : Json → ℕ
  | .arr items => 1 + Json.sizeItems items
  | .obj fields => 1 + Json.sizeFields fields
  | _ => 1

def Json.sizeItems : List Json → ℕ
  | [] => 0
  | j :: js => 1 + j.size + Json.sizeItems js

def Json.sizeFields : List (String × Json) → ℕ
  | [] => 0
  | (_, j) :: fs => 1 + j.size + Json.sizeFields fs

end

theorem intercalate_append (close : Char) (ts : List (List Char)) :
    [','].intercalate ts ++ [close] = enclose close ts := by
  have htail : ∀ ts : List (List Char), ts ≠ [] →
      ',' :: ([','].intercalate ts ++ [close]) = encloseTail close ts := by
    intro ts hts
    induction ts with
    | nil => exact absurd rfl hts
    | cons t ts ih =>
      cases ts with
      | nil => simp [encloseTail, List.intercalate]
      | cons u us =>
        rw [encloseTail, ← ih (by simp)]
        simp [List.intercalate, List.intersperse]
  cases ts with
  | nil => rfl
  | cons t ts =>
    cases ts with
    | nil => simp [enclose, encloseTail, List.intercalate]
    | cons u us =>
      rw [enclose, ← htail (u :: us) (by simp)]
      simp [List.intercalate, List.intersperse]

theorem textFieldsWith_eq_map (q : String → String) (fields : List (String × Json)) :
    Json.textFieldsWith q fields = (fields.map fun f => (f.1, f.2.textWith q)).map
      fun f => (q f.1).toList ++ ':' :: f.2 := by
  induction fields with
  | nil => rfl
  | cons f fields ih => rw [Json.textFieldsWith, ih, List.map_cons, List.map_cons]

theorem map_sort {α β : Type} (f : α → β) (l : List (String × α)) :
    ((l.map fun p => (p.1, f p.2)).insertionSort fun a b => a.1 ≤ b.1) =
      (l.insertionSort fun a b => a.1 ≤ b.1).map fun p => (p.1, f p.2) :=
  (List.map_insertionSort _ _ (fun p : String × α => (p.1, f p.2)) l fun _ _ _ _ => Iff.rfl).symm

mutual

theorem toList_dumpsWith (q : String → String) : ∀ j : Json, (j.dumpsWith q).toList = j.sortKeys.textWith q
  | .null => rfl
  | .bool b => by cases b <;> rfl
  | .int n => by simp only [Json.dumpsWith, Json.sortKeys, Json.textWith]
  | .float repr => by simp only [Json.dumpsWith, Json.sortKeys, Json.textWith]
  | .str s => by simp only [Json.dumpsWith, Json.sortKeys, Json.textWith]
  | .arr items => by
    rw [Json.dumpsWith, Json.sortKeys, Json.textWith, ← intercalate_append, ← toList_dumpsItemsWith q items,
      String.toList_append, String.toList_append, String.toList_intercalate]
    rfl
  | .obj fields => by
    rw [Json.dumpsWith, Json.sortKeys, Json.textWith, ← intercalate_append, textFieldsWith_eq_map,
      String.toList_append, String.toList_append, String.toList_intercalate, List.map_map]
    rw [← map_sort (Json.textWith q), ← toList_dumpsFieldsWith q fields, map_sort String.toList, List.map_map]
    have hfield : (String.toList ∘ fun f : String × String => q f.1 ++ ":" ++ f.2) =
        (fun f : String × List Char => (q f.1).toList ++ ':' :: f.2) ∘
          fun f : String × String => (f.1, f.2.toList) := by
      funext f
      simp only [Function.comp_apply, String.toList_append, List.append_assoc]
      rfl
    rw [hfield]
    rfl

theorem toList_dumpsItemsWith (q : String → String) : ∀ js : List Json,
    (Json.dumpsItemsWith q js).map String.toList = Json.textItemsWith q (Json.sortItems js)
  | [] => rfl
  | j :: js => by
    rw [Json.dumpsItemsWith, Json.sortItems, Json.textItemsWith, List.map_cons, toList_dumpsWith q j,
      toList_dumpsItemsWith q js]

theorem toList_dumpsFieldsWith (q : String → String) : ∀ fs : List (String × Json),
    (Json.dumpsFieldsWith q fs).map (fun f => (f.1, f.2.toList)) =
      (Json.sortFields fs).map fun f => (f.1, f.2.textWith q)
  | [] => rfl
  | (k, j) :: fs => by
    rw [Json.dumpsFieldsWith, Json.sortFields, List.map_cons, List.map_cons, toList_dumpsWith q j,
      toList_dumpsFieldsWith q fs]

end

theorem toList_dumps (j : Json) : j.dumps.toList = j.sortKeys.text := by
  rw [dumps_eq, toList_dumpsWith, text_eq]

/-! ### Sorting keeps a value readable -/

theorem soundFields_iff (fs : List (String × Json)) :
    Json.soundFields fs = true ↔ ∀ f ∈ fs, f.2.sound = true := by
  induction fs with
  | nil => simp [Json.soundFields]
  | cons f fs ih => simp [Json.soundFields, ih]

theorem keys_sortFields (fs : List (String × Json)) :
    (Json.sortFields fs).map Prod.fst = fs.map Prod.fst := by
  induction fs with
  | nil => rfl
  | cons f fs ih => rw [Json.sortFields, List.map_cons, List.map_cons, ih]

theorem sortFields_eq_self {fs : List (String × Json)} (h : ∀ p ∈ fs, p.2.sortKeys = p.2) :
    Json.sortFields fs = fs := by
  induction fs with
  | nil => rfl
  | cons p fs ih =>
    obtain ⟨k, j⟩ := p
    rw [Json.sortFields, h (k, j) List.mem_cons_self, ih fun q hq => h q (List.mem_cons_of_mem _ hq)]

mutual

theorem sound_sortKeys : ∀ j : Json, j.sound = true → j.sortKeys.sound = true
  | .null, h => h
  | .bool _, h => h
  | .int _, h => h
  | .float _, h => h
  | .str _, h => h
  | .arr items, h => soundItems_sortItems items h
  | .obj fields, h => by
    simp only [Json.sound, Bool.and_eq_true, decide_eq_true_eq] at h
    have hperm := List.perm_insertionSort (fun a b : String × Json => a.1 ≤ b.1)
      (Json.sortFields fields)
    have hkeys := (hperm.map Prod.fst).nodup_iff.2 (by rw [keys_sortFields]; exact h.1)
    have hvalues : ∀ f ∈ (Json.sortFields fields).insertionSort fun a b => a.1 ≤ b.1,
        f.2.sound = true := by
      intro f hf
      exact (soundFields_iff _).1 (soundFields_sortFields fields h.2) f (hperm.mem_iff.1 hf)
    simp only [Json.sortKeys, Json.sound, Bool.and_eq_true, decide_eq_true_eq]
    exact ⟨hkeys, (soundFields_iff _).2 hvalues⟩

theorem soundItems_sortItems :
    ∀ js : List Json, Json.soundItems js = true → Json.soundItems (Json.sortItems js) = true
  | [], h => h
  | j :: js, h => by
    simp only [Json.soundItems, Bool.and_eq_true] at h
    simp only [Json.sortItems, Json.soundItems, Bool.and_eq_true]
    exact ⟨sound_sortKeys j h.1, soundItems_sortItems js h.2⟩

theorem soundFields_sortFields : ∀ fs : List (String × Json), Json.soundFields fs = true →
    Json.soundFields (Json.sortFields fs) = true
  | [], h => h
  | (k, j) :: fs, h => by
    simp only [Json.soundFields, Bool.and_eq_true] at h
    simp only [Json.sortFields, Json.soundFields, Bool.and_eq_true]
    exact ⟨sound_sortKeys j h.1, soundFields_sortFields fs h.2⟩

end

/-! ### The first character of a value -/

/-- The character can begin a value: it is no blank and no closing bracket. -/
def Opens (c : Char) : Prop := c ∉ [' ', '\t', '\n', '\r', ']', '\x7d']

instance (c : Char) : Decidable (Opens c) := inferInstanceAs (Decidable (_ ∉ _))

theorem skipBlanks_cons {c : Char} (hc : Opens c) (cs : List Char) :
    skipBlanks (c :: cs) = c :: cs := by
  simp only [Opens, List.mem_cons, not_or] at hc
  obtain ⟨h1, h2, h3, h4, -⟩ := hc
  simp [skipBlanks, h1, h2, h3, h4]

theorem opens_of_isNumeric {c : Char} (h : isNumeric c = true) : Opens c := by
  intro hc
  simp only [List.mem_cons, List.not_mem_nil, or_false] at hc
  rcases hc with rfl | rfl | rfl | rfl | rfl | rfl <;> exact absurd h (by decide)

theorem exists_numeric {cs : List Char} (hall : cs.all isNumeric = true) (hne : cs ≠ []) :
    ∃ c cs', cs = c :: cs' ∧ isNumeric c = true := by
  cases cs with
  | nil => exact absurd rfl hne
  | cons c cs => exact ⟨c, cs, rfl, (List.all_eq_true.1 hall) c List.mem_cons_self⟩

theorem toString_ne_nil (n : ℤ) : (toString n).toList ≠ [] := by
  rw [toList_toString]
  split
  · exact Nat.toDigits_ne_nil
  · simp

variable {s : String}

theorem isFloatText_cases (h : isFloatText s = true) :
    s = "NaN" ∨ s = "Infinity" ∨ s = "-Infinity" ∨
      (s.toList.all isNumeric = true ∧ readInt s.toList = none ∧ isFloat s.toList = true) := by
  simp only [isFloatText, Bool.or_eq_true, Bool.and_eq_true, List.contains_iff_mem, List.mem_cons,
    List.not_mem_nil, or_false, Option.isNone_iff_eq_none] at h
  rcases h with (h | h | h) | ⟨⟨h1, h2⟩, h3⟩
  · exact Or.inl h
  · exact Or.inr (Or.inl h)
  · exact Or.inr (Or.inr (Or.inl h))
  · exact Or.inr (Or.inr (Or.inr ⟨h1, h2, h3⟩))

variable {q : String → String} {rest : List Char}

theorem exists_opens (hq : Reads q) :
    ∀ {j : Json}, j.sound = true → ∃ c cs, j.textWith q = c :: cs ∧ Opens c
  | .null, _ => ⟨'n', "ull".toList, rfl, by decide⟩
  | .bool true, _ => ⟨'t', "rue".toList, rfl, by decide⟩
  | .bool false, _ => ⟨'f', "alse".toList, rfl, by decide⟩
  | .int n, _ => by
    obtain ⟨c, cs, hc, hnum⟩ := exists_numeric (all_isNumeric_toString n) (toString_ne_nil n)
    exact ⟨c, cs, hc, opens_of_isNumeric hnum⟩
  | .float s, h => by
    rcases isFloatText_cases h with rfl | rfl | rfl | ⟨hall, -, hfloat⟩
    · exact ⟨'N', _, rfl, by decide⟩
    · exact ⟨'I', _, rfl, by decide⟩
    · exact ⟨'-', _, rfl, by decide⟩
    · have hne : s.toList ≠ [] := by
        intro hnil
        rw [hnil] at hfloat
        exact absurd hfloat (by decide)
      obtain ⟨c, cs, hc, hnum⟩ := exists_numeric hall hne
      exact ⟨c, cs, hc, opens_of_isNumeric hnum⟩
  | .str s, _ => by
    obtain ⟨cs, hcs, -⟩ := hq s
    exact ⟨'"', cs, hcs, by decide⟩
  | .arr _, _ => ⟨'[', _, rfl, by decide⟩
  | .obj _, _ => ⟨'\x7b', _, rfl, by decide⟩

/-! ### Reading a text back -/

theorem dictOf_append (ps : List (String × Json)) {qs : List (String × Json)}
    (h : ((ps ++ qs).map Prod.fst).Nodup) :
    qs.foldl (fun d p => if d.any (·.1 = p.1) then d.map fun q => if q.1 = p.1 then p else q
      else d ++ [p]) ps = ps ++ qs := by
  induction qs generalizing ps with
  | nil => simp
  | cons q qs ih =>
    have hq : ps.any (fun p => decide (p.1 = q.1)) = false := by
      rw [List.any_eq_false]
      intro p hp heq
      rw [List.map_append, List.nodup_append] at h
      exact h.2.2 p.1 (List.mem_map_of_mem hp) q.1 (by simp) (of_decide_eq_true heq)
    rw [List.foldl_cons, hq, if_neg Bool.false_ne_true, ih _ (by simpa using h)]
    simp

theorem dictOf_of_nodup {ps : List (String × Json)} (h : (ps.map Prod.fst).Nodup) :
    dictOf ps = ps := dictOf_append [] h

theorem scanWord_append (word : String) (j : Json) (rest : List Char) :
    scanWord word j (word.toList ++ rest) = some (j, rest) := by
  have hlen : word.length = word.toList.length := (String.length_toList).symm
  rw [scanWord, if_pos (by simp), hlen, List.drop_left]

theorem scanScalar_of_numeric {cs : List Char} (rest : List Char)
    (hall : cs.all isNumeric = true) (hread : readInt cs ≠ none ∨ isFloat cs = true) :
    scanScalar (cs ++ rest) = scanNumber (cs ++ rest) := by
  have hmem := List.all_eq_true.1 hall
  cases cs with
  | nil => rcases hread with h | h <;> exact absurd h (by decide)
  | cons c cs =>
    have hc := hmem c List.mem_cons_self
    rw [List.cons_append]
    unfold scanScalar
    split
    case h_7 =>
      -- a minus is followed by a digit of the number itself
      rename_i heq
      cases cs with
      | nil =>
        cases heq
        rcases hread with h | h <;> exact absurd h (by decide)
      | cons d ds =>
        cases heq
        exact absurd (hmem 'I' (by simp)) (by decide)
    case h_8 => rfl
    all_goals
      rename_i heq
      cases heq
      exact absurd hc (by decide)

theorem scanNumber_int {n : ℤ} (h : (Nat.toDigits 10 n.natAbs).length ≤ 4300) (hrest : Stops rest) :
    scanNumber ((toString n).toList ++ rest) = some (.int n, rest) := by
  obtain ⟨htake, hdrop⟩ := takeWhile_isNumeric (all_isNumeric_toString n) hrest
  simp only [scanNumber, htake, hdrop, readInt_toString h]

theorem scanNumber_float (hall : s.toList.all isNumeric = true) (hint : readInt s.toList = none)
    (hfloat : isFloat s.toList = true) (hrest : Stops rest) :
    scanNumber (s.toList ++ rest) = some (.float s, rest) := by
  obtain ⟨htake, hdrop⟩ := takeWhile_isNumeric hall hrest
  simp only [scanNumber, htake, hdrop, hint, hfloat, if_true, String.ofList_toList]

theorem scanScalar_float (h : isFloatText s = true) (hrest : Stops rest) :
    scanScalar (s.toList ++ rest) = some (.float s, rest) := by
  rcases isFloatText_cases h with rfl | rfl | rfl | ⟨hall, hint, hfloat⟩
  · exact scanWord_append "NaN" _ rest
  · exact scanWord_append "Infinity" _ rest
  · exact scanWord_append "-Infinity" _ rest
  · rw [scanScalar_of_numeric rest hall (Or.inr hfloat), scanNumber_float hall hint hfloat hrest]

theorem stops_encloseTail {close : Char} (hclose : isNumeric close = false)
    (ts : List (List Char)) (rest : List Char) : Stops (encloseTail close ts ++ rest) := by
  cases ts with
  | nil => simp [encloseTail, Stops, hclose]
  | cons t ts =>
    have hcomma : isNumeric ',' = false := by decide
    simp [encloseTail, Stops, hcomma]

theorem scanValue_of_scalar {fuel : ℕ} {c : Char} {cs : List Char} (harr : c ≠ '[')
    (hobj : c ≠ '\x7b') : scanValue (fuel + 1) (c :: cs) = scanScalar (c :: cs) := by
  unfold scanValue
  split
  · simp_all
  · simp_all
  · rfl

theorem scanValue_str (hq : Reads q) (s : String) (fuel : ℕ) (rest : List Char) :
    scanValue (fuel + 1) ((q s).toList ++ rest) = some (.str s, rest) := by
  obtain ⟨cs, hcs, hscan⟩ := hq s
  rw [hcs, List.cons_append, scanValue_of_scalar (by decide) (by decide), scanScalar, hscan]
  rfl

theorem scanValue_int {n : ℤ} (h : (Nat.toDigits 10 n.natAbs).length ≤ 4300) (fuel : ℕ)
    (hrest : Stops rest) :
    scanValue (fuel + 1) ((toString n).toList ++ rest) = some (.int n, rest) := by
  have hscalar := scanScalar_of_numeric rest (all_isNumeric_toString n)
    (Or.inl (by rw [readInt_toString h]; simp))
  obtain ⟨c, cs, hc, hnum⟩ := exists_numeric (all_isNumeric_toString n) (toString_ne_nil n)
  rw [hc, List.cons_append] at hscalar ⊢
  have harr : c ≠ '[' := by
    rintro rfl
    exact absurd hnum (by decide)
  have hobj : c ≠ '\x7b' := by
    rintro rfl
    exact absurd hnum (by decide)
  rw [scanValue_of_scalar harr hobj, hscalar, ← List.cons_append, ← hc, scanNumber_int h hrest]

theorem scanValue_float (h : isFloatText s = true) (fuel : ℕ) (hrest : Stops rest) :
    scanValue (fuel + 1) (s.toList ++ rest) = some (.float s, rest) := by
  have hscalar := scanScalar_float h hrest
  have hhead : ∃ c cs, s.toList = c :: cs ∧ c ≠ '[' ∧ c ≠ '\x7b' := by
    rcases isFloatText_cases h with rfl | rfl | rfl | ⟨hall, -, hfloat⟩
    · exact ⟨_, _, rfl, by decide, by decide⟩
    · exact ⟨_, _, rfl, by decide, by decide⟩
    · exact ⟨_, _, rfl, by decide, by decide⟩
    · have hne : s.toList ≠ [] := by
        intro hnil
        rw [hnil] at hfloat
        exact absurd hfloat (by decide)
      obtain ⟨c, cs, hc, hnum⟩ := exists_numeric hall hne
      refine ⟨c, cs, hc, ?_, ?_⟩
      · rintro rfl
        exact absurd hnum (by decide)
      · rintro rfl
        exact absurd hnum (by decide)
  obtain ⟨c, cs, hc, harr, hobj⟩ := hhead
  rw [hc, List.cons_append] at hscalar ⊢
  rw [scanValue_of_scalar harr hobj, hscalar]

mutual

/-- A value is read from its text, whatever follows. -/
theorem scanValue_text (hq : Reads q) : ∀ (j : Json) (fuel : ℕ) (rest : List Char), j.sound = true →
    j.size ≤ fuel → Stops rest → scanValue fuel (j.textWith q ++ rest) = some (j, rest)
  | j, 0, rest, _, hf, _ => by
    have : 1 ≤ j.size := by cases j <;> simp [Json.size]
    omega
  | .null, fuel + 1, rest, _, _, _ => scanWord_append "null" _ rest
  | .bool true, fuel + 1, rest, _, _, _ => scanWord_append "true" _ rest
  | .bool false, fuel + 1, rest, _, _, _ => scanWord_append "false" _ rest
  | .int n, fuel + 1, rest, hs, _, hr => scanValue_int (of_decide_eq_true hs) fuel hr
  | .float s, fuel + 1, rest, hs, _, hr => scanValue_float hs fuel hr
  | .str s, fuel + 1, rest, _, _, _ => scanValue_str hq s fuel rest
  | .arr [], fuel + 1, rest, _, _, _ => rfl
  | .arr (j :: js), fuel + 1, rest, hs, hf, _ => by
    have hitems := scanItems_text hq j js fuel rest hs (by simp only [Json.size] at hf; omega)
    have hhead : j.sound = true := by
      simp only [Json.sound, Json.soundItems, Bool.and_eq_true] at hs
      exact hs.1
    obtain ⟨c, cs, hc, hopens⟩ := exists_opens hq hhead
    rw [Json.textWith, List.cons_append, scanValue]
    rw [Json.textItemsWith, enclose, hc, List.cons_append, List.cons_append] at hitems ⊢
    simp only [skipBlanks_cons hopens]
    split
    · rename_i heq
      cases heq
      exact absurd hopens (by decide)
    · rw [hitems]
      rfl
  | .obj [], fuel + 1, rest, _, _, _ => rfl
  | .obj ((k, j) :: fs), fuel + 1, rest, hs, hf, _ => by
    simp only [Json.sound, Bool.and_eq_true, decide_eq_true_eq] at hs
    have hfields := scanFields_text hq k j fs fuel rest hs.2 (by simp only [Json.size] at hf; omega)
    obtain ⟨qs, hqs, -⟩ := hq k
    rw [Json.textWith, List.cons_append, scanValue]
    rw [Json.textFieldsWith, enclose, hqs, List.cons_append, List.cons_append,
      List.cons_append] at hfields ⊢
    simp only [skipBlanks_cons (show Opens '"' by decide)]
    split
    · rename_i heq
      cases heq
    · rw [hfields, Option.map_some, dictOf_of_nodup hs.1]

theorem scanItems_text (hq : Reads q) : ∀ (j : Json) (js : List Json) (fuel : ℕ) (rest : List Char),
    Json.soundItems (j :: js) = true → Json.sizeItems (j :: js) ≤ fuel →
      scanItems fuel (enclose ']' (Json.textItemsWith q (j :: js)) ++ rest) = some (j :: js, rest)
  | j, js, 0, rest, _, hf => by
    simp only [Json.sizeItems] at hf
    omega
  | j, js, fuel + 1, rest, hs, hf => by
    simp only [Json.soundItems, Bool.and_eq_true] at hs
    simp only [Json.sizeItems] at hf
    have hvalue := scanValue_text hq j fuel (encloseTail ']' (Json.textItemsWith q js) ++ rest) hs.1
      (by omega) (stops_encloseTail (by decide) _ _)
    rw [Json.textItemsWith, enclose, List.append_assoc, scanItems, hvalue]
    cases js with
    | nil => rfl
    | cons i is =>
      have hrest := scanItems_text hq i is fuel rest hs.2 (by omega)
      have hhead : i.sound = true := by
        simp only [Json.soundItems, Bool.and_eq_true] at hs
        exact hs.2.1
      obtain ⟨c, cs, hc, hopens⟩ := exists_opens hq hhead
      rw [Json.textItemsWith, enclose, hc, List.cons_append, List.cons_append] at hrest
      simp only [Json.textItemsWith, encloseTail, List.cons_append, hc,
        skipBlanks_cons (show Opens ',' by decide), skipBlanks_cons hopens]
      rw [hrest]
      rfl

theorem scanFields_text (hq : Reads q) : ∀ (k : String) (j : Json) (fs : List (String × Json)) (fuel : ℕ)
    (rest : List Char), Json.soundFields ((k, j) :: fs) = true →
      Json.sizeFields ((k, j) :: fs) ≤ fuel →
        scanFields fuel (enclose '\x7d' (Json.textFieldsWith q ((k, j) :: fs)) ++ rest) =
          some ((k, j) :: fs, rest)
  | k, j, fs, 0, rest, _, hf => by
    simp only [Json.sizeFields] at hf
    omega
  | k, j, fs, fuel + 1, rest, hs, hf => by
    simp only [Json.soundFields, Bool.and_eq_true] at hs
    simp only [Json.sizeFields] at hf
    have hvalue := scanValue_text hq j fuel (encloseTail '\x7d' (Json.textFieldsWith q fs) ++ rest) hs.1
      (by omega) (stops_encloseTail (by decide) _ _)
    obtain ⟨c, cs, hc, hopens⟩ := exists_opens hq hs.1
    obtain ⟨qs, hqs, hscan⟩ := hq k
    rw [hc, List.cons_append] at hvalue
    rw [Json.textFieldsWith, enclose, hqs, hc]
    simp only [List.cons_append, List.append_assoc, scanFields, hscan,
      skipBlanks_cons (show Opens ':' by decide), skipBlanks_cons hopens, hvalue]
    cases fs with
    | nil => rfl
    | cons f fs =>
      obtain ⟨l, i⟩ := f
      have hrest := scanFields_text hq l i fs fuel rest hs.2 (by omega)
      obtain ⟨ls, hls, -⟩ := hq l
      rw [Json.textFieldsWith, enclose, hls, List.cons_append, List.cons_append,
        List.cons_append] at hrest
      simp only [Json.textFieldsWith, encloseTail, hls, List.cons_append,
        skipBlanks_cons (show Opens ',' by decide), skipBlanks_cons (show Opens '"' by decide)]
      rw [hrest]
      rfl

end

/-! ### The fuel suffices -/

variable {j : Json}

theorem length_encloseTail (close : Char) (ts : List (List Char)) :
    (encloseTail close ts).length = (ts.map fun t => t.length + 1).sum + 1 := by
  induction ts with
  | nil => rfl
  | cons t ts ih =>
    simp only [encloseTail, List.length_cons, List.length_append, ih, List.map_cons, List.sum_cons]
    omega

theorem sum_le_length_enclose (close : Char) (ts : List (List Char)) :
    (ts.map fun t => t.length + 1).sum ≤ (enclose close ts).length := by
  cases ts with
  | nil => simp
  | cons t ts =>
    simp only [enclose, List.length_append, length_encloseTail, List.map_cons, List.sum_cons]
    omega

theorem length_text_pos (hq : Reads q) (h : j.sound = true) : 0 < (j.textWith q).length := by
  obtain ⟨c, cs, hc, -⟩ := exists_opens hq h
  rw [hc]
  simp

mutual

theorem size_le (hq : Reads q) : ∀ j : Json, j.sound = true → j.size ≤ 2 * (j.textWith q).length
  | .null, h => by simp [Json.size, Json.textWith]
  | .bool true, h => by simp [Json.size, Json.textWith]
  | .bool false, h => by simp [Json.size, Json.textWith]
  | .int n, h => by
    have := length_text_pos hq h
    simp only [Json.size]
    omega
  | .float s, h => by
    have := length_text_pos hq h
    simp only [Json.size]
    omega
  | .str s, h => by
    have := length_text_pos hq h
    simp only [Json.size]
    omega
  | .arr items, h => by
    have hitems := sizeItems_le hq items h
    have hsum := sum_le_length_enclose ']' (Json.textItemsWith q items)
    simp only [Json.size, Json.textWith, List.length_cons]
    omega
  | .obj fields, h => by
    simp only [Json.sound, Bool.and_eq_true] at h
    have hfields := sizeFields_le hq fields h.2
    have hsum := sum_le_length_enclose '\x7d' (Json.textFieldsWith q fields)
    simp only [Json.size, Json.textWith, List.length_cons]
    omega

theorem sizeItems_le (hq : Reads q) : ∀ js : List Json, Json.soundItems js = true →
    Json.sizeItems js ≤ 2 * ((Json.textItemsWith q js).map fun t => t.length + 1).sum
  | [], _ => by simp [Json.sizeItems]
  | j :: js, h => by
    simp only [Json.soundItems, Bool.and_eq_true] at h
    have hj := size_le hq j h.1
    have hjs := sizeItems_le hq js h.2
    simp only [Json.sizeItems, Json.textItemsWith, List.map_cons, List.sum_cons]
    omega

theorem sizeFields_le (hq : Reads q) : ∀ fs : List (String × Json), Json.soundFields fs = true →
    Json.sizeFields fs ≤ 2 * ((Json.textFieldsWith q fs).map fun t => t.length + 1).sum
  | [], _ => by simp [Json.sizeFields]
  | (k, j) :: fs, h => by
    simp only [Json.soundFields, Bool.and_eq_true] at h
    have hj := size_le hq j h.1
    have hfs := sizeFields_le hq fs h.2
    simp only [Json.sizeFields, Json.textFieldsWith, List.map_cons, List.sum_cons, List.length_append,
      List.length_cons]
    omega

end

/-- Reading the text of a value, in the order in which its keys stand, gives the value. -/
theorem Json.loads_textWith (hq : Reads q) (h : j.sound = true) {blanks : String}
    (hblanks : skipBlanks blanks.toList = []) :
    Json.loads (String.ofList (j.textWith q) ++ blanks) = some j := by
  have hfuel : j.size ≤ 2 * (String.ofList (j.textWith q) ++ blanks).length + 1 := by
    have := size_le hq _ h
    rw [String.length_append, String.length_ofList]
    omega
  have hstops : Stops blanks.toList := by
    rcases hchars : blanks.toList with _ | ⟨c, cs⟩
    · rfl
    · by_cases hc : c = ' ' ∨ c = '\t' ∨ c = '\n' ∨ c = '\r'
      · rcases hc with rfl | rfl | rfl | rfl <;> exact rfl
      · rw [hchars, skipBlanks, List.dropWhile_cons_of_neg (by simpa [and_assoc] using hc)] at hblanks
        exact absurd hblanks (by simp)
  have hscan := scanValue_text hq j _ blanks.toList h hfuel hstops
  obtain ⟨c, cs, hc, hopens⟩ := exists_opens hq h
  rw [hc, List.cons_append] at hscan
  rw [Json.loads, hc, String.toList_append, String.toList_ofList, List.cons_append,
    skipBlanks_cons hopens, hscan]
  exact if_pos hblanks

/-- **Reading the text of a value gives the value with its keys sorted**, whatever blanks follow. -/
theorem Json.loads_dumpsWith (hq : Reads q) (h : j.sound = true) {blanks : String}
    (hblanks : skipBlanks blanks.toList = []) :
    Json.loads (j.dumpsWith q ++ blanks) = some j.sortKeys := by
  have hdumps : j.dumpsWith q = String.ofList (j.sortKeys.textWith q) := by
    rw [← toList_dumpsWith, String.ofList_toList]
  rw [hdumps]
  exact Json.loads_textWith hq (sound_sortKeys j h) hblanks

/-- **Reading the canonical text of a value gives the value with its keys sorted.** -/
theorem Json.loads_dumps (h : j.sound = true) : Json.loads j.dumps = some j.sortKeys := by
  have hloads : Json.loads (j.dumpsWith quote ++ "") = some j.sortKeys :=
    Json.loads_dumpsWith reads_quote h rfl
  rwa [String.append_empty, ← dumps_eq] at hloads

example : Json.loads "\x7b\"b\": [1, -2.5, \"\\ud83d\\ude00\"], \"a\": null, \"b\": true\x7d" =
    some (.obj [("b", .bool true), ("a", .null)]) := by decide +kernel

end Python
