/-
**Patterns over texts with separators.**

A character that no test of a pattern accepts and that belongs to no word separates a text: a match lies
on one side of it, and where it stands next to the match a word ends as at the end of the text.  If
some test that every match passes accepts none of the characters of a text, there is no match at all.

A text that is woven of such characters and of parts between separators is matched exactly if one of the
parts is.

Main definitions:

* `TextPatterns.Pattern.rejects` — no test of the pattern accepts a character;
* `TextPatterns.Pattern.blocked` — no match gets along with the given characters alone;
* `TextPatterns.Weaves` — texts that are woven of parts.

Main results:

* `TextPatterns.searchFrom_append` — **a match lies on one side of a separator**;
* `TextPatterns.Weaves.searchFrom_iff` — **a woven text is matched exactly if one of its parts is**.
-/

import FaultWitness.TextPatterns

set_option autoImplicit false

namespace TextPatterns

/-! ### Separators -/

/-- No test of the pattern accepts the character. -/
def Pattern.rejects (sep : Char) : Pattern → Bool
  | .one test | .many _ test | .maybe test | .notBefore test | .notAfter test => !test sep
  | .boundary => true
  | .seq a b | .alt a b => a.rejects sep && b.rejects sep

/-- The place as it looks if the text begins and ends at the next separators. -/
def cut (sep : Char) (place : Place) : Place :=
  (place.1.filter fun c => c ≠ sep, place.2.takeWhile fun c => c ≠ sep)

section Cut

variable {isLetter : Char → Bool} {sep : Char} {test : Char → Bool} {p : Pattern}

theorem cut_sep (before : Option Char) (cs : List Char) :
    cut sep (before, sep :: cs) = (before.filter fun c => c ≠ sep, []) := by
  simp [cut]

theorem cut_cons {c : Char} (h : c ≠ sep) (before : Option Char) (cs : List Char) :
    cut sep (before, c :: cs) =
      (before.filter fun c => c ≠ sep, c :: cs.takeWhile fun c => c ≠ sep) := by
  simp [cut, h]

theorem cut_after {c : Char} (h : c ≠ sep) (cs : List Char) :
    cut sep (some c, cs) = (some c, cs.takeWhile fun c => c ≠ sep) := by
  simp [cut, h]

theorem any_filter (h : test sep = false) (before : Option Char) :
    (before.filter fun c => c ≠ sep).any test = before.any test := by
  cases before with
  | none => rfl
  | some c =>
    by_cases hc : c = sep
    · subst hc
      simp [h]
    · simp [hc]

theorem any_head_takeWhile (h : test sep = false) (cs : List Char) :
    (cs.takeWhile fun c => c ≠ sep).head?.any test = cs.head?.any test := by
  cases cs with
  | nil => rfl
  | cons c cs =>
    by_cases hc : c = sep
    · subst hc
      simp [h]
    · simp [hc]

theorem map_cut_manyEnds (h : test sep = false) (cs : List Char) :
    ∀ least before, (manyEnds test least before cs).map (cut sep) =
      manyEnds test least (before.filter fun c => c ≠ sep) (cs.takeWhile fun c => c ≠ sep) := by
  induction cs with
  | nil =>
    rintro (_ | least) before
    · rfl
    · rfl
  | cons c cs ih =>
    intro least before
    by_cases hc : c = sep
    · subst hc
      cases least with
      | zero => simp [manyEnds, h, cut]
      | succ least => simp [manyEnds, h]
    · have hafter : ((some c).filter fun c => c ≠ sep) = some c := by simp [hc]
      rw [List.takeWhile_cons_of_pos (by simp [hc])]
      cases least with
      | zero =>
        rw [manyEnds, manyEnds, List.map_cons, cut_cons hc]
        cases htest : test c with
        | true => rw [if_pos rfl, if_pos rfl, ih 0 (some c), hafter]
        | false => rfl
      | succ least =>
        rw [manyEnds, manyEnds]
        cases htest : test c with
        | true => rw [if_pos rfl, if_pos rfl, ih least (some c), hafter]
        | false => rfl

/-- **The matches from a place do not look beyond the next separators.** -/
theorem Pattern.map_cut_ends (hword : isWord isLetter sep = false) (hp : p.rejects sep = true)
    (place : Place) : (p.ends isLetter place).map (cut sep) = p.ends isLetter (cut sep place) := by
  induction p generalizing place with
  | one test =>
    have htest : test sep = false := by simpa [Pattern.rejects] using hp
    obtain ⟨before, _ | ⟨c, cs⟩⟩ := place
    · rfl
    · by_cases hc : c = sep
      · subst hc
        rw [cut_sep, Pattern.ends, htest]
        rfl
      · rw [cut_cons hc, Pattern.ends, Pattern.ends]
        cases test c with
        | true => exact congrArg (fun place => [place]) (cut_after hc cs)
        | false => rfl
  | many least test =>
    have htest : test sep = false := by simpa [Pattern.rejects] using hp
    exact map_cut_manyEnds htest place.2 least place.1
  | maybe test =>
    have htest : test sep = false := by simpa [Pattern.rejects] using hp
    obtain ⟨before, _ | ⟨c, cs⟩⟩ := place
    · rfl
    · by_cases hc : c = sep
      · subst hc
        rw [cut_sep, Pattern.ends, Pattern.ends, htest, List.map_cons, cut_sep]
        rfl
      · rw [cut_cons hc, Pattern.ends, Pattern.ends, List.map_cons, cut_cons hc]
        cases test c with
        | true => exact congrArg (fun place => [_, place]) (cut_after hc cs)
        | false => rfl
  | boundary =>
    have hboundary : isBoundary isLetter (cut sep place) = isBoundary isLetter place := by
      rw [isBoundary, isBoundary]
      exact congrArg₂ _ (any_filter hword place.1) (any_head_takeWhile hword place.2)
    rw [Pattern.ends, Pattern.ends, hboundary]
    split <;> rfl
  | notBefore test =>
    have htest : test sep = false := by simpa [Pattern.rejects] using hp
    rw [Pattern.ends, Pattern.ends, cut, any_filter htest]
    split <;> rfl
  | notAfter test =>
    have htest : test sep = false := by simpa [Pattern.rejects] using hp
    rw [Pattern.ends, Pattern.ends, cut, any_head_takeWhile htest]
    split <;> rfl
  | seq a b iha ihb =>
    rw [Pattern.rejects, Bool.and_eq_true] at hp
    rw [Pattern.ends, Pattern.ends, ← iha hp.1, List.map_flatMap, List.flatMap_map]
    exact congrArg (List.flatMap · _) (funext fun place => ihb hp.2 place)
  | alt a b iha ihb =>
    rw [Pattern.rejects, Bool.and_eq_true] at hp
    rw [Pattern.ends, Pattern.ends, List.map_append, iha hp.1, ihb hp.2]

theorem isEmpty_ends_cut (hword : isWord isLetter sep = false) (hp : p.rejects sep = true)
    (place : Place) :
    (p.ends isLetter (cut sep place)).isEmpty = (p.ends isLetter place).isEmpty := by
  rw [← Pattern.map_cut_ends hword hp, List.isEmpty_map]

theorem searchFrom_sep (hword : isWord isLetter sep = false) (hp : p.rejects sep = true)
    (cs : List Char) : p.searchFrom isLetter (some sep) cs = p.searchFrom isLetter none cs := by
  have hstart : (p.ends isLetter (some sep, cs)).isEmpty = (p.ends isLetter (none, cs)).isEmpty := by
    rw [← isEmpty_ends_cut hword hp, ← isEmpty_ends_cut hword hp (none, cs), cut, cut]
    simp [Option.filter]
  cases cs with
  | nil => rw [Pattern.searchFrom, Pattern.searchFrom, hstart]
  | cons c cs => rw [Pattern.searchFrom, Pattern.searchFrom, hstart]

/-- **A match lies on one side of a separator.** -/
theorem searchFrom_append (hword : isWord isLetter sep = false) (hp : p.rejects sep = true)
    (before : Option Char) (cs ds : List Char) :
    p.searchFrom isLetter before (cs ++ sep :: ds) =
      (p.searchFrom isLetter before cs || p.searchFrom isLetter none ds) := by
  have hstart : ∀ before cs, (p.ends isLetter (before, cs ++ sep :: ds)).isEmpty =
      (p.ends isLetter (before, cs)).isEmpty := by
    intro before cs
    rw [← isEmpty_ends_cut hword hp, ← isEmpty_ends_cut hword hp (before, cs)]
    have hcut : (cs ++ sep :: ds).takeWhile (fun c => c ≠ sep) = cs.takeWhile fun c => c ≠ sep := by
      induction cs with
      | nil => simp
      | cons c cs ih =>
        rw [List.cons_append, List.takeWhile_cons, List.takeWhile_cons, ih]
    rw [cut, hcut, cut]
  induction cs generalizing before with
  | nil =>
    change (!(p.ends isLetter (before, [] ++ sep :: ds)).isEmpty ||
      p.searchFrom isLetter (some sep) ds) = _
    rw [searchFrom_sep hword hp, hstart before [], Pattern.searchFrom]
  | cons c cs ih =>
    rw [List.cons_append, Pattern.searchFrom, ih, Pattern.searchFrom, ← List.cons_append, hstart,
      Bool.or_assoc]

end Cut

/-! ### Characters that no match gets along with -/

/-- Every match has a character that is none of the given ones. -/
def Pattern.blocked (dull : List Char) : Pattern → Bool
  | .one test => dull.all fun c => !test c
  | .many least test => 0 < least && dull.all fun c => !test c
  | .maybe _ | .boundary | .notBefore _ | .notAfter _ => false
  | .seq a b => a.blocked dull || b.blocked dull
  | .alt a b => a.blocked dull && b.blocked dull

section Blocked

variable {isLetter : Char → Bool} {dull cs : List Char} {place : Place} {p : Pattern}

theorem mem_of_all (h : (cs.all fun c => dull.contains c) = true) : ∀ c ∈ cs, c ∈ dull := by
  intro c hc
  exact List.contains_iff_mem.1 (List.all_eq_true.1 h c hc)

theorem suffix_manyEnds {test : Char → Bool} :
    ∀ {least before}, place ∈ manyEnds test least before cs → place.2 <:+ cs := by
  induction cs with
  | nil =>
    rintro (_ | least) before h
    · rw [manyEnds, List.mem_singleton] at h
      exact h ▸ List.suffix_rfl
    · cases h
  | cons c cs ih =>
    rintro (_ | least) before h
    · rw [manyEnds, List.mem_cons] at h
      rcases h with rfl | h
      · exact List.suffix_rfl
      · split at h
        · exact (ih h).trans (List.suffix_cons c cs)
        · cases h
    · rw [manyEnds] at h
      split at h
      · exact (ih h).trans (List.suffix_cons c cs)
      · cases h

theorem Pattern.suffix_ends {after : Place} (h : after ∈ p.ends isLetter place) :
    after.2 <:+ place.2 := by
  induction p generalizing place after with
  | one test =>
    obtain ⟨before, _ | ⟨c, cs⟩⟩ := place
    · cases h
    · rw [Pattern.ends] at h
      split at h
      · rw [List.mem_singleton] at h
        exact h ▸ List.suffix_cons c cs
      · cases h
  | many least test => exact suffix_manyEnds h
  | maybe test =>
    obtain ⟨before, _ | ⟨c, cs⟩⟩ := place
    · rw [Pattern.ends, List.mem_singleton] at h
      exact h ▸ List.suffix_rfl
    · rw [Pattern.ends, List.mem_cons] at h
      rcases h with rfl | h
      · exact List.suffix_rfl
      · split at h
        · rw [List.mem_singleton] at h
          exact h ▸ List.suffix_cons c cs
        · cases h
  | boundary | notBefore test | notAfter test =>
    rw [Pattern.ends] at h
    split at h
    all_goals first
      | exact (List.mem_singleton.1 h) ▸ List.suffix_rfl
      | cases h
  | seq a b iha ihb =>
    obtain ⟨middle, hmiddle, hafter⟩ := List.mem_flatMap.1 h
    exact (ihb hafter).trans (iha hmiddle)
  | alt a b iha ihb =>
    rcases List.mem_append.1 h with h | h
    · exact iha h
    · exact ihb h

theorem Pattern.ends_of_blocked (hp : p.blocked dull = true) (hplace : ∀ c ∈ place.2, c ∈ dull) :
    p.ends isLetter place = [] := by
  induction p generalizing place with
  | one test =>
    obtain ⟨before, _ | ⟨c, cs⟩⟩ := place
    · rfl
    · have htest : test c = false := by
        simpa using List.all_eq_true.1 hp c (hplace c List.mem_cons_self)
      rw [Pattern.ends, htest]
      rfl
  | many least test =>
    obtain ⟨before, cs⟩ := place
    rw [Pattern.blocked, Bool.and_eq_true, decide_eq_true_eq] at hp
    obtain ⟨least, rfl⟩ := Nat.exists_eq_succ_of_ne_zero (Nat.ne_of_gt hp.1)
    cases cs with
    | nil => rfl
    | cons c cs =>
      have htest : test c = false := by
        simpa using List.all_eq_true.1 hp.2 c (hplace c List.mem_cons_self)
      rw [Pattern.ends, manyEnds, htest]
      rfl
  | maybe test | boundary | notBefore test | notAfter test => cases hp
  | seq a b iha ihb =>
    rw [Pattern.blocked, Bool.or_eq_true] at hp
    rw [Pattern.ends, List.flatMap_eq_nil_iff]
    intro middle hmiddle
    rcases hp with hp | hp
    · rw [iha hp hplace] at hmiddle
      cases hmiddle
    · exact ihb hp fun c hc => hplace c ((Pattern.suffix_ends hmiddle).mem hc)
  | alt a b iha ihb =>
    rw [Pattern.blocked, Bool.and_eq_true] at hp
    rw [Pattern.ends, iha hp.1 hplace, ihb hp.2 hplace]
    rfl

theorem searchFrom_of_blocked (hp : p.blocked dull = true) (hcs : ∀ c ∈ cs, c ∈ dull)
    (before : Option Char) : p.searchFrom isLetter before cs = false := by
  induction cs generalizing before with
  | nil => rw [Pattern.searchFrom, Pattern.ends_of_blocked hp hcs]; rfl
  | cons c cs ih =>
    rw [Pattern.searchFrom, Pattern.ends_of_blocked hp hcs,
      ih fun c hc => hcs c (List.mem_cons_of_mem _ hc)]
    rfl

end Blocked

/-! ### Woven texts -/

/-- A text of dull characters and of parts, each with a separator before and after it. -/
inductive Weaves (sep : Char) (dull : List Char) : List (List Char) → List Char → Prop
  | plain {cs : List Char} (hcs : ∀ c ∈ cs, c ∈ dull) : Weaves sep dull [] cs
  | part {cs rest : List Char} {parts : List (List Char)} (hcs : ∀ c ∈ cs, c ∈ dull) (s : List Char)
      (hrest : Weaves sep dull parts rest) :
      Weaves sep dull (s :: parts) (cs ++ sep :: (s ++ sep :: rest))

namespace Weaves

variable {isLetter : Char → Bool} {sep : Char} {dull : List Char} {parts : List (List Char)}
  {text : List Char}

theorem cons_append {cs : List Char} (hcs : ∀ c ∈ cs, c ∈ dull) (h : Weaves sep dull parts text) :
    Weaves sep dull parts (cs ++ text) := by
  have happend : ∀ {ds : List Char}, (∀ c ∈ ds, c ∈ dull) → ∀ c ∈ cs ++ ds, c ∈ dull := by
    intro ds hds c hc
    rcases List.mem_append.1 hc with hc | hc
    · exact hcs c hc
    · exact hds c hc
  cases h with
  | plain hds => exact .plain (happend hds)
  | part hds s hrest =>
    rw [← List.append_assoc]
    exact .part (happend hds) s hrest

theorem append {parts' : List (List Char)} {text' : List Char} (h : Weaves sep dull parts text)
    (h' : Weaves sep dull parts' text') : Weaves sep dull (parts ++ parts') (text ++ text') := by
  induction h with
  | plain hcs => exact h'.cons_append hcs
  | part hcs s hrest ih =>
    have hmove := Weaves.part hcs s ih
    simpa only [List.cons_append, List.append_assoc] using hmove

theorem intercalate {α : Type} {between : List Char} (hbetween : ∀ c ∈ between, c ∈ dull)
    {parts : α → List (List Char)} {text : α → List Char} {as : List α}
    (h : ∀ a ∈ as, Weaves sep dull (parts a) (text a)) :
    Weaves sep dull (as.flatMap parts) (between.intercalate (as.map text)) := by
  induction as with
  | nil => exact .plain nofun
  | cons a as ih =>
    have htail := ih fun a ha => h a (List.mem_cons_of_mem _ ha)
    rw [List.flatMap_cons, List.map_cons]
    by_cases hnil : as = []
    · subst hnil
      rw [List.map_nil, List.intercalate_singleton, List.flatMap_nil, List.append_nil]
      exact h a List.mem_cons_self
    · rw [List.intercalate_cons_of_ne_nil (by simpa using hnil), List.append_assoc]
      exact (h a List.mem_cons_self).append (htail.cons_append hbetween)

/-- **A woven text is matched exactly if one of its parts is.** -/
theorem searchFrom_iff (hword : isWord isLetter sep = false) {p : Pattern}
    (hrejects : p.rejects sep = true) (hblocked : p.blocked dull = true)
    (h : Weaves sep dull parts text) (before : Option Char) :
    p.searchFrom isLetter before text = true ↔ ∃ s ∈ parts, p.searchFrom isLetter none s = true := by
  induction h generalizing before with
  | plain hcs => simp [searchFrom_of_blocked hblocked hcs]
  | part hcs s hrest ih =>
    rw [searchFrom_append hword hrejects, searchFrom_append hword hrejects,
      searchFrom_of_blocked hblocked hcs, Bool.false_or, Bool.or_eq_true, ih none]
    simp

end Weaves

end TextPatterns
