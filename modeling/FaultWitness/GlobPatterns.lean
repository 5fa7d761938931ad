/-
**Shell patterns.**

A shell pattern is text in which `*` stands for any text, `?` for one character and `[…]` for one
character of a set.  `translate` reads the pattern into a list of items, with the corner cases of
the usual implementation: an unclosed bracket is itself, a bracket's ranges whose ends are in the
wrong order are dropped, and what then starts with `!` counts as negated.

Main definitions:
* `Glob.translate` - the items a pattern is read as
* `Glob.accepts` - whether a list of items matches a whole text
* `Glob.fnmatchcase` - the two together

Main results:
* `Glob.accepts_append` - a list of items matches in two parts
* `Glob.fnmatchcase_star` - a stem with a final `*` matches exactly what it is a prefix of
* `Glob.fnmatchcase_plain` - a pattern without special characters matches itself alone
-/
import Mathlib.Data.List.Infix
import Mathlib.Tactic.Common

set_option autoImplicit false

namespace Glob

/-! ### Items -/

inductive Item
  | star
  | any
  | literal (c : Char)
  /-- One character within some of the ranges, or, negated, within none. -/
  | set (negated : Bool) (ranges : List (Char × Char))
  | never
  deriving DecidableEq, Repr

/-- Whether the item takes the character, for an item that takes one. -/
def Item.takes : Item → Char → Bool
  | .star, _ => false
  | .any, _ => true
  | .literal x, c => x = c
  | .set negated ranges, c => ranges.any (fun r => r.1 ≤ c && c ≤ r.2) != negated
  | .never, _ => false

/-- Whether the items match the whole text. -/
def accepts : List Item → List Char → Bool
  | [], text => text.isEmpty
  | .star :: items, text => text.tails.any fun rest => accepts items rest
  | _ :: _, [] => false
  | item :: items, c :: text => item.takes c && accepts items text

/-! ### Reading a pattern -/

/-- The text up to the bracket's end and what follows it.  A `]` right at the start, or right after
a `!`, does not close the bracket. -/
def bracket (text : List Char) : Option (List Char × List Char) :=
  let (bang, text) := if text.head? = some '!' then (['!'], text.tail) else ([], text)
  let (close, text) := if text.head? = some ']' then ([']'], text.tail) else ([], text)
  match text.span (· ≠ ']') with
  | (_, []) => none
  | (body, _ :: rest) => some (bang ++ close ++ body, rest)

/-- The pieces of a bracket's text between the hyphens that stand for ranges: the first hyphen is
looked for after `skip` characters. -/
def chunks : ℕ → ℕ → List Char → List (List Char)
  | 0, _, text => [text]
  | fuel + 1, skip, text =>
    match (text.drop skip).span (· ≠ '-') with
    | (_, []) => [text]
    | (body, [_]) => [text.take skip ++ body ++ ['-']]
    | (body, _ :: rest) => (text.take skip ++ body) :: chunks fuel 2 rest

/-- Takes out the ranges whose ends are in the wrong order, the last one first. -/
def dropEmptyRanges : List (List Char) → List (List Char)
  | [] => []
  | piece :: pieces =>
    match dropEmptyRanges pieces with
    | [] => [piece]
    | next :: others =>
      match piece.getLast?, next.head? with
      | some low, some high =>
        if high < low then (piece.dropLast ++ next.tail) :: others else piece :: next :: others
      | _, _ => piece :: next :: others

/-- The characters of each piece, and from each piece's last to the next one's first. -/
def ranges : List (List Char) → List (Char × Char)
  | [] => []
  | [piece] => piece.map fun c => (c, c)
  | piece :: next :: pieces =>
    (match piece.getLast?, next.head? with
      | some low, some high => (low, high)
      -- nothing stands before the hyphen: it is a character of the set
      | _, _ => ('-', '-')) :: piece.map (fun c => (c, c)) ++ ranges (next :: pieces)

/-- The item of a bracket with the text `stuff`. -/
def charset (stuff : List Char) : Item :=
  let pieces := dropEmptyRanges
    (chunks stuff.length (if stuff.head? = some '!' then 2 else 1) stuff)
  match pieces with
  | [[]] => .never
  | [['!']] => .any
  | ('!' :: piece) :: others => .set true (ranges (piece :: others))
  | _ => .set false (ranges pieces)

/-- The items of a pattern, with fuel for its length. -/
def translateFrom : ℕ → List Char → List Item
  | 0, _ => []
  | _, [] => []
  | fuel + 1, '*' :: text =>
    match translateFrom fuel text with
    | .star :: items => .star :: items
    | items => .star :: items
  | fuel + 1, '?' :: text => .any :: translateFrom fuel text
  | fuel + 1, '[' :: text =>
    match bracket text with
    | none => .literal '[' :: translateFrom fuel text
    | some (stuff, rest) => charset stuff :: translateFrom fuel rest
  | fuel + 1, c :: text => .literal c :: translateFrom fuel text

def translate (pattern : List Char) : List Item := translateFrom pattern.length pattern

/-- Whether the name matches the pattern, case included. -/
def fnmatchcase (name pattern : String) : Bool := accepts (translate pattern.toList) name.toList

/-- Ranges, a negated set, a hyphen, an unclosed bracket and a range in the wrong order. -/
example : fnmatchcase "b7-[x" "[a-c][!0-6]-[?" = true ∧ fnmatchcase "b" "[c-a]" = false := by
  decide +kernel

/-! ### Matching in parts -/

variable {text : List Char}

theorem accepts_cons {item : Item} {items : List Item} (h : item ≠ .star) :
    accepts (item :: items) text = true ↔
      ∃ c rest, text = c :: rest ∧ item.takes c = true ∧ accepts items rest = true := by
  cases text with
  | nil => cases item <;> simp_all [accepts]
  | cons c rest => cases item <;> simp_all [accepts]

theorem accepts_star {items : List Item} :
    accepts (.star :: items) text = true ↔
      ∃ before rest, text = before ++ rest ∧ accepts items rest = true := by
  simp only [accepts, List.any_eq_true, List.mem_tails]
  constructor
  · rintro ⟨rest, ⟨before, rfl⟩, h⟩
    exact ⟨before, rest, rfl, h⟩
  · rintro ⟨before, rest, rfl, h⟩
    exact ⟨rest, ⟨before, rfl⟩, h⟩

/-- A list of items in two parts matches a text in two parts. -/
theorem accepts_append {as bs : List Item} :
    accepts (as ++ bs) text = true ↔
      ∃ s t, text = s ++ t ∧ accepts as s = true ∧ accepts bs t = true := by
  induction as generalizing text with
  | nil =>
    constructor
    · intro h
      exact ⟨[], text, rfl, rfl, h⟩
    · rintro ⟨s, t, rfl, hs, ht⟩
      have hs : s = [] := by simpa [accepts] using hs
      subst hs
      exact ht
  | cons a as ih =>
    rw [List.cons_append]
    by_cases ha : a = .star
    · subst ha
      rw [accepts_star]
      constructor
      · rintro ⟨before, rest, rfl, h⟩
        obtain ⟨s, t, rfl, hs, ht⟩ := ih.1 h
        exact ⟨before ++ s, t, by rw [List.append_assoc], accepts_star.2 ⟨before, s, rfl, hs⟩, ht⟩
      · rintro ⟨s, t, rfl, hs, ht⟩
        obtain ⟨before, rest, rfl, hrest⟩ := accepts_star.1 hs
        exact ⟨before, rest ++ t, by rw [List.append_assoc], ih.2 ⟨rest, t, rfl, hrest, ht⟩⟩
    · rw [accepts_cons ha]
      constructor
      · rintro ⟨c, rest, rfl, hc, h⟩
        obtain ⟨s, t, rfl, hs, ht⟩ := ih.1 h
        exact ⟨c :: s, t, rfl, (accepts_cons ha).2 ⟨c, s, rfl, hc, hs⟩, ht⟩
      · rintro ⟨s, t, rfl, hs, ht⟩
        obtain ⟨c, rest, rfl, hc, hs⟩ := (accepts_cons ha).1 hs
        exact ⟨c, rest ++ t, rfl, hc, ih.2 ⟨rest, t, rfl, hs, ht⟩⟩

/-! ### Plain text -/

/-- The character stands for itself wherever it is in a pattern. -/
def Plain (c : Char) : Prop := c ≠ '*' ∧ c ≠ '?' ∧ c ≠ '['

instance (c : Char) : Decidable (Plain c) := inferInstanceAs (Decidable (_ ∧ _ ∧ _))

theorem translateFrom_plain {c : Char} {fuel : ℕ} (hc : Plain c) :
    translateFrom (fuel + 1) (c :: text) = .literal c :: translateFrom fuel text := by
  obtain ⟨hstar, hany, hset⟩ := hc
  rw [translateFrom] <;> simp_all

theorem translate_append {stem : List Char} (h : ∀ c ∈ stem, Plain c) :
    translate (stem ++ text) = stem.map .literal ++ translate text := by
  induction stem with
  | nil => rfl
  | cons c stem ih =>
    have ih := ih fun d hd => h d (by simp [hd])
    calc translate ((c :: stem) ++ text)
        = .literal c :: translate (stem ++ text) := translateFrom_plain (h c (by simp))
      _ = (c :: stem).map .literal ++ translate text := by rw [ih]; rfl

theorem accepts_literals {stem : List Char} :
    accepts (stem.map .literal) text = true ↔ text = stem := by
  induction stem generalizing text with
  | nil => simp [accepts]
  | cons c stem ih =>
    rw [List.map_cons, accepts_cons (by simp)]
    simp only [Item.takes, decide_eq_true_eq, ih]
    constructor
    · rintro ⟨d, rest, rfl, rfl, rfl⟩
      rfl
    · rintro rfl
      exact ⟨c, stem, rfl, rfl, rfl⟩

/-- **A stem with a final `*` matches exactly the names it is a prefix of.** -/
theorem fnmatchcase_star {name stem : String} (h : ∀ c ∈ stem.toList, Plain c) :
    fnmatchcase name (stem ++ "*") = true ↔ stem.toList <+: name.toList := by
  have hstar : translate "*".toList = [.star] := by decide
  rw [fnmatchcase, String.toList_append, translate_append h, hstar, accepts_append]
  constructor
  · rintro ⟨s, t, hname, hs, -⟩
    rw [accepts_literals] at hs
    exact ⟨t, by rw [hname, hs]⟩
  · rintro ⟨t, hname⟩
    have ht : accepts [.star] t = true := accepts_star.2 ⟨t, [], by simp, rfl⟩
    exact ⟨stem.toList, t, hname.symm, accepts_literals.2 rfl, ht⟩

/-- **A pattern of plain text matches itself alone.** -/
theorem fnmatchcase_plain {name text : String} (h : ∀ c ∈ text.toList, Plain c) :
    fnmatchcase name text = true ↔ name = text := by
  have hitems : translate text.toList = text.toList.map .literal := by
    have happend : translate (text.toList ++ []) = text.toList.map .literal ++ translate [] :=
      translate_append h
    simpa [translate, translateFrom] using happend
  rw [fnmatchcase, hitems, accepts_literals]
  exact String.toList_inj

end Glob
