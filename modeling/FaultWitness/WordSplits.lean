/-
**The words of a text.**

A text over an alphabet of which some characters are kept and the others separate words.  Replacing
every run of separating characters by one separator and stripping separators from both ends gives
the words of the text, joined by the separator.  The result therefore names the words and nothing
else: two texts come to the same result exactly when they have the same words.

Main definitions:

* `WordSplits.collapse` — replacing every run of separating characters by one separator;
* `WordSplits.strip` — stripping separators from both ends;
* `WordSplits.words` — the maximal runs of kept characters.

Main results:

* `WordSplits.strip_collapse` — **what is left are the words, joined by the separator**;
* `WordSplits.strip_collapse_eq_iff` — it names the words;
* `WordSplits.flatten_words` — removing the separating characters joins the words without one.
-/

import Mathlib.Data.List.DropRight

set_option autoImplicit false

namespace WordSplits

variable {α : Type}

/-! ### Replacing and stripping -/

/-- Each run of characters that are not kept becomes one separator; the flag says whether such a
run has begun. -/
def collapse (kept : α → Bool) (sep : α) : Bool → List α → List α
  | _, [] => []
  | inRun, a :: as =>
    if kept a then a :: collapse kept sep false as
    else if inRun then collapse kept sep true as
    else sep :: collapse kept sep true as

def strip [DecidableEq α] (sep : α) (as : List α) : List α :=
  (as.dropWhile fun a => a = sep).rdropWhile fun a => a = sep

/-- The maximal runs of kept characters. -/
def words (kept : α → Bool) : List α → List (List α)
  | [] => []
  | [a] => if kept a then [[a]] else []
  | a :: b :: as =>
    if kept a then
      if kept b then (words kept (b :: as)).modifyHead (a :: ·)
      else [a] :: words kept (b :: as)
    else words kept (b :: as)

/-! ### Words -/

variable {kept : α → Bool} {sep : α} {ws : List (List α)}

theorem words_of_not_kept {a : α} (ha : kept a = false) (as : List α) :
    words kept (a :: as) = words kept as := by
  cases as with
  | nil => simp [words, ha]
  | cons b as => simp [words, ha]

theorem words_ne_nil {a : α} (ha : kept a = true) (as : List α) : words kept (a :: as) ≠ [] := by
  induction as generalizing a with
  | nil => simp [words, ha]
  | cons b as ih =>
    by_cases hb : kept b = true
    · simpa [words, ha, hb] using ih hb
    · simp [words, ha, hb]

/-- Words are not empty and consist of kept characters. -/
theorem kept_of_mem_words {as : List α} {w : List α} (h : w ∈ words kept as) :
    w ≠ [] ∧ ∀ a ∈ w, kept a = true := by
  induction as generalizing w with
  | nil => cases h
  | cons a as ih =>
    by_cases ha : kept a = true
    · cases as with
      | nil =>
        obtain rfl : w = [a] := by simpa [words, ha] using h
        simpa using ha
      | cons b as =>
        by_cases hb : kept b = true
        · cases hws : words kept (b :: as) with
          | nil => exact absurd hws (words_ne_nil hb as)
          | cons first ws =>
            rw [hws] at ih
            rw [words, if_pos ha, if_pos hb, hws, List.modifyHead_cons] at h
            rcases List.mem_cons.1 h with rfl | h
            · refine ⟨List.cons_ne_nil _ _, fun c hc => ?_⟩
              rcases List.mem_cons.1 hc with rfl | hc
              · exact ha
              · exact (ih List.mem_cons_self).2 c hc
            · exact ih (List.mem_cons_of_mem _ h)
        · rw [words, if_pos ha, if_neg hb] at h
          rcases List.mem_cons.1 h with rfl | h
          · simpa using ha
          · exact ih h
    · rw [words_of_not_kept (by simpa using ha)] at h
      exact ih h

theorem flatten_words (kept : α → Bool) (as : List α) :
    (words kept as).flatten = as.filter kept := by
  induction as with
  | nil => rfl
  | cons a as ih =>
    by_cases ha : kept a = true
    · rw [List.filter_cons_of_pos ha, ← ih]
      cases as with
      | nil => simp [words, ha]
      | cons b as =>
        by_cases hb : kept b = true
        · cases hws : words kept (b :: as) with
          | nil => exact absurd hws (words_ne_nil hb as)
          | cons first ws => simp [words, ha, hb, hws]
        · simp [words, ha, hb]
    · rw [words_of_not_kept (by simpa using ha), ih, List.filter_cons_of_neg ha]

/-! ### What replacing leaves -/

theorem collapse_false (kept : α → Bool) (sep : α) (as : List α) :
    collapse kept sep false as = collapse kept sep true as ∨
      collapse kept sep false as = sep :: collapse kept sep true as := by
  cases as with
  | nil => exact Or.inl rfl
  | cons a as =>
    by_cases ha : kept a = true
    · simp [collapse, ha]
    · simp [collapse, ha]

/-- After the last word there is at most one separator, and between words exactly one. -/
theorem collapse_true (kept : α → Bool) (sep : α) (as : List α) :
    collapse kept sep true as = [sep].intercalate (words kept as) ∨
      words kept as ≠ [] ∧
        collapse kept sep true as = [sep].intercalate (words kept as) ++ [sep] := by
  induction as with
  | nil => exact Or.inl rfl
  | cons a as ih =>
    by_cases ha : kept a = true
    · cases as with
      | nil => simp [collapse, words, ha]
      | cons b as =>
        by_cases hb : kept b = true
        · cases hws : words kept (b :: as) with
          | nil => exact absurd hws (words_ne_nil hb as)
          | cons first ws =>
            have hrest : collapse kept sep true (a :: b :: as) =
                a :: collapse kept sep true (b :: as) := by
              simp [collapse, ha, hb]
            rw [hws] at ih
            rw [hrest, words, if_pos ha, if_pos hb, hws, List.modifyHead_cons,
              List.intercalate_cons_cons_left]
            rcases ih with ih | ⟨-, ih⟩
            · exact Or.inl (by rw [ih])
            · exact Or.inr ⟨List.cons_ne_nil _ _, by rw [ih, List.cons_append]⟩
        · have hrest : collapse kept sep true (a :: b :: as) =
              a :: sep :: collapse kept sep true (b :: as) := by
            simp [collapse, ha, hb]
          rw [hrest, words, if_pos ha, if_neg hb]
          by_cases hnil : words kept (b :: as) = []
          · rw [hnil] at ih ⊢
            rcases ih with ih | ⟨hne, -⟩
            · exact Or.inr ⟨List.cons_ne_nil _ _, by simp [ih]⟩
            · exact absurd rfl hne
          · rw [List.intercalate_cons_of_ne_nil hnil]
            rcases ih with ih | ⟨-, ih⟩
            · exact Or.inl (by simp [ih])
            · exact Or.inr ⟨List.cons_ne_nil _ _, by simp [ih]⟩
    · rw [words_of_not_kept (by simpa using ha)]
      have hrest : collapse kept sep true (a :: as) = collapse kept sep true as := by
        simp [collapse, ha]
      rw [hrest]
      exact ih

/-! ### What stripping leaves -/

theorem sep_not_mem_words (hsep : kept sep = false) {as w : List α} (h : w ∈ words kept as) :
    w ≠ [] ∧ sep ∉ w := by
  obtain ⟨hne, hkept⟩ := kept_of_mem_words h
  refine ⟨hne, fun hmem => ?_⟩
  rw [hkept sep hmem] at hsep
  cases hsep

theorem join_head (hne : ws ≠ []) (h : ∀ w ∈ ws, w ≠ [] ∧ sep ∉ w) :
    ∃ a as, [sep].intercalate ws = a :: as ∧ a ≠ sep := by
  obtain ⟨w, ws, rfl⟩ := List.exists_cons_of_ne_nil hne
  obtain ⟨hw, hsep⟩ := h w List.mem_cons_self
  obtain ⟨a, as, rfl⟩ := List.exists_cons_of_ne_nil hw
  rw [List.intercalate_cons_cons_left]
  exact ⟨a, _, rfl, fun heq => hsep (heq ▸ List.mem_cons_self)⟩

theorem join_last (hne : ws ≠ []) (h : ∀ w ∈ ws, w ≠ [] ∧ sep ∉ w) :
    ∃ as a, [sep].intercalate ws = as ++ [a] ∧ a ≠ sep := by
  induction ws with
  | nil => exact absurd rfl hne
  | cons w ws ih =>
    cases ws with
    | nil =>
      obtain ⟨hw, hsep⟩ := h w List.mem_cons_self
      refine ⟨w.dropLast, w.getLast hw, ?_, fun heq => hsep (heq ▸ List.getLast_mem hw)⟩
      rw [List.intercalate_singleton, List.dropLast_append_getLast]
    | cons w' ws =>
      obtain ⟨as, a, heq, ha⟩ :=
        ih (List.cons_ne_nil _ _) fun v hv => h v (List.mem_cons_of_mem _ hv)
      refine ⟨w ++ [sep] ++ as, a, ?_, ha⟩
      rw [List.intercalate_cons_of_ne_nil (List.cons_ne_nil _ _), heq]
      simp only [List.append_assoc]

section Strip

variable [DecidableEq α]

theorem strip_join {sep : α} {ws : List (List α)} (hne : ws ≠ [])
    (h : ∀ w ∈ ws, w ≠ [] ∧ sep ∉ w) {before after : List α}
    (hbefore : ∀ a ∈ before, a = sep) (hafter : after = [] ∨ after = [sep]) :
    strip sep (before ++ ([sep].intercalate ws ++ after)) = [sep].intercalate ws := by
  obtain ⟨a, as, hhead, ha⟩ := join_head hne h
  obtain ⟨bs, b, hlast, hb⟩ := join_last hne h
  unfold strip
  have hdrop : (before ++ ([sep].intercalate ws ++ after)).dropWhile (fun c => c = sep) =
      [sep].intercalate ws ++ after := by
    rw [List.dropWhile_append_of_pos (by simpa using hbefore), hhead, List.cons_append,
      List.dropWhile_cons_of_neg (by simpa using ha)]
  rw [hdrop, hlast]
  rcases hafter with rfl | rfl
  · rw [List.append_nil, List.rdropWhile_concat_neg _ _ _ (by simpa using hb)]
  · rw [List.rdropWhile_concat_pos _ _ _ (by simp),
      List.rdropWhile_concat_neg _ _ _ (by simpa using hb)]

/-- **What is left are the words, joined by the separator.** -/
theorem strip_collapse {kept : α → Bool} {sep : α} (hsep : kept sep = false) (as : List α) :
    strip sep (collapse kept sep false as) = [sep].intercalate (words kept as) := by
  obtain ⟨before, hbefore, hfalse⟩ : ∃ before : List α, (∀ a ∈ before, a = sep) ∧
      collapse kept sep false as = before ++ collapse kept sep true as := by
    rcases collapse_false kept sep as with h | h
    · exact ⟨[], by simp, by rw [h, List.nil_append]⟩
    · exact ⟨[sep], by simp, by rw [h, List.singleton_append]⟩
  by_cases hnil : words kept as = []
  · rcases collapse_true kept sep as with h | ⟨hne, -⟩
    · rw [hfalse, h, hnil, List.intercalate_nil, List.append_nil]
      unfold strip
      rw [List.dropWhile_eq_nil_iff.2 (by simpa using hbefore), List.rdropWhile_nil]
    · exact absurd hnil hne
  · have hwords : ∀ w ∈ words kept as, w ≠ [] ∧ sep ∉ w := fun w hw => sep_not_mem_words hsep hw
    rcases collapse_true kept sep as with h | ⟨-, h⟩
    · have hstrip := strip_join hnil hwords hbefore (Or.inl rfl)
      rwa [List.append_nil, ← h, ← hfalse, h] at hstrip
    · have hstrip := strip_join hnil hwords hbefore (Or.inr rfl)
      rwa [← h, ← hfalse] at hstrip

/-- **Two texts come to the same exactly when they have the same words.** -/
theorem strip_collapse_eq_iff {kept : α → Bool} {sep : α} (hsep : kept sep = false)
    (as bs : List α) :
    strip sep (collapse kept sep false as) = strip sep (collapse kept sep false bs) ↔
      words kept as = words kept bs := by
  rw [strip_collapse hsep, strip_collapse hsep]
  refine ⟨fun h => ?_, fun h => by rw [h]⟩
  have hempty : ∀ cs : List α, [sep].intercalate (words kept cs) = [] → words kept cs = [] := by
    intro cs hcs
    by_contra hne
    obtain ⟨a, rest, heq, -⟩ := join_head hne fun w hw => sep_not_mem_words hsep hw
    rw [hcs] at heq
    cases heq
  by_cases has : words kept as = []
  · rw [has, List.intercalate_nil] at h
    rw [has, hempty bs h.symm]
  · have hbs : words kept bs ≠ [] := by
      intro hbs
      rw [hbs, List.intercalate_nil] at h
      exact has (hempty as h)
    rw [← List.splitOn_intercalate sep (fun w hw => (sep_not_mem_words hsep hw).2) has, h,
      List.splitOn_intercalate sep (fun w hw => (sep_not_mem_words hsep hw).2) hbs]

end Strip

end WordSplits
