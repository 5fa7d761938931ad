/-
**Patterns over texts.**

The regular expressions that a program searches texts for, as far as they are built from tests of one
character, repetitions of such a test, word boundaries, tests of a neighbour, sequences and
alternatives.  Matching is told
by all the places where a match can end, so that a repetition needs no backtracking: a sequence goes on
from every place where its first part ends.

What counts as a letter beyond ASCII is a table that is left open.

Main definitions:

* `TextPatterns.Pattern`, `TextPatterns.Pattern.ends` — patterns, and where their matches end;
* `TextPatterns.Pattern.search` — whether a pattern matches anywhere in a text;
* `TextPatterns.foldsTo` — comparing a character without regard to case.
-/

import Mathlib.Data.List.Basic

set_option autoImplicit false

namespace TextPatterns

/-! ### Patterns -/

inductive Pattern
  /-- One character that passes the test. -/
  | one (test : Char → Bool)
  /-- At least `least` characters that pass the test. -/
  | many (least : ℕ) (test : Char → Bool)
  /-- One character that passes the test, or none. -/
  | maybe (test : Char → Bool)
  | boundary
  /-- No character that passes the test stands before, or after, the place. -/
  | notBefore (test : Char → Bool)
  | notAfter (test : Char → Bool)
  | seq (a b : Pattern)
  | alt (a b : Pattern)

/-- The patterns one after the other. -/
def Pattern.all : List Pattern → Pattern
  | [] => .many 0 fun _ => false
  | [p] => p
  | p :: ps => .seq p (Pattern.all ps)

/-- A word, spelled with the test `same` for each of its characters. -/
def Pattern.word (same : Char → Char → Bool) (text : String) : Pattern :=
  .all (text.toList.map fun c => .one (same c))

/-! ### Characters -/

/-- The characters `\w` of a text: letters, digits and the underscore. -/
def isWord (isLetter : Char → Bool) (c : Char) : Bool :=
  if c.toNat < 128 then c.isAlphanum || c = '_' else isLetter c

/-- The lower-case letter `x` and a character that differs from it in case only.  Beyond ASCII these
are the two other forms of `i`, the long `s` and the sign for Kelvin. -/
def foldsTo (x c : Char) : Bool :=
  c = x || c.toLower = x || (x = 'i' && (c.toNat = 0x130 || c.toNat = 0x131)) ||
    (x = 's' && c.toNat = 0x17f) || (x = 'k' && c.toNat = 0x212a)

/-! ### Matching -/

/-- A place in a text: the character before it, if any, and the characters after it. -/
abbrev Place := Option Char × List Char

/-- The places that can be reached by a repetition. -/
def manyEnds (test : Char → Bool) : ℕ → Option Char → List Char → List Place
  | 0, before, [] => [(before, [])]
  | 0, before, c :: cs =>
    (before, c :: cs) :: if test c then manyEnds test 0 (some c) cs else []
  | _ + 1, _, [] => []
  | least + 1, _, c :: cs => if test c then manyEnds test least (some c) cs else []

/-- Exactly one of the characters around the place is one of a word. -/
def isBoundary (isLetter : Char → Bool) (place : Place) : Bool :=
  place.1.any (isWord isLetter) != place.2.head?.any (isWord isLetter)

/-- The places where a match that starts at a place can end. -/
def Pattern.ends (isLetter : Char → Bool) : Pattern → Place → List Place
  | .one test, (_, c :: cs) => if test c then [(some c, cs)] else []
  | .one _, (_, []) => []
  | .many least test, (before, cs) => manyEnds test least before cs
  | .maybe test, (before, c :: cs) => (before, c :: cs) :: if test c then [(some c, cs)] else []
  | .maybe _, (before, []) => [(before, [])]
  | .boundary, place => if isBoundary isLetter place then [place] else []
  | .notBefore test, place => if place.1.any test then [] else [place]
  | .notAfter test, place => if place.2.head?.any test then [] else [place]
  | .seq a b, place => (a.ends isLetter place).flatMap fun p => b.ends isLetter p
  | .alt a b, place => a.ends isLetter place ++ b.ends isLetter place

/-- A match starts at some place of the text. -/
def Pattern.searchFrom (isLetter : Char → Bool) (p : Pattern) : Option Char → List Char → Bool
  | before, [] => !(p.ends isLetter (before, [])).isEmpty
  | before, c :: cs =>
    !(p.ends isLetter (before, c :: cs)).isEmpty || p.searchFrom isLetter (some c) cs

def Pattern.search (isLetter : Char → Bool) (p : Pattern) (text : String) : Bool :=
  p.searchFrom isLetter none text.toList

end TextPatterns
