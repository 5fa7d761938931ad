/-
**A numbered log fed through a bounded mailbox.**

A publisher appends items to a log, the `n`-th item carrying the number `n`, and offers each new
item to the mailboxes of the subscribers.  A mailbox is bounded: an item that finds it full is
dropped, and the mailbox is marked as closed for good.  A consumer takes items from the front,
skips those whose number it has already passed, and passes on the rest.

When does such a consumer see the log without gaps?  While the mailbox is open its queue is the end
of the log, so all that matters is how far back it reaches (`BoundedFeed.Tracks`).  Once the mailbox
is closed the queue may have a hole anywhere behind its first item, but a consumer that looks at
the mark before every take can be caught with at most one take in flight, and for that one take the
first item is still the right one (`BoundedFeed.Waits`).

Main definitions:

* `BoundedFeed.Mailbox`, `BoundedFeed.Mailbox.put` — the bounded queue with its mark;
* `BoundedFeed.Numbered`, `BoundedFeed.segment` — a log numbered from one, and a stretch of it;
* `BoundedFeed.Tracks`, `BoundedFeed.Waits` — what a mailbox owes to a consumer that has passed on
  everything up to a number.

Main results:

* `BoundedFeed.Tracks.put`, `BoundedFeed.Waits.put` — publishing keeps both;
* `BoundedFeed.Tracks.pop` — **the item taken is one already passed on, or exactly the next one**.
-/

import Mathlib.Data.List.Infix
import Mathlib.Data.List.AList

set_option autoImplicit false

namespace BoundedFeed

variable {E : Type}

/-! ### Mailboxes -/

/-- A bounded queue; `closed` is set when an item had to be dropped.  Size `0` means unbounded. -/
structure Mailbox (E : Type) where
  queue : List E := []
  maxsize : ℕ
  closed : Bool := false

/-- No room for another item. -/
def Mailbox.full (m : Mailbox E) : Prop := 0 < m.maxsize ∧ m.maxsize ≤ m.queue.length

instance (m : Mailbox E) : Decidable m.full := inferInstanceAs (Decidable (_ ∧ _))

/-- Offering an item. -/
def Mailbox.put (m : Mailbox E) (e : E) : Mailbox E :=
  if m.full then { m with closed := true } else { m with queue := m.queue ++ [e] }

variable {m : Mailbox E}

theorem Mailbox.put_of_full (h : m.full) (e : E) : m.put e = { m with closed := true } := if_pos h

theorem Mailbox.put_of_not_full (h : ¬ m.full) (e : E) :
    m.put e = { m with queue := m.queue ++ [e] } := if_neg h

theorem Mailbox.queue_ne_nil_of_full (h : m.full) : m.queue ≠ [] := by
  intro hq
  have := h.2
  simp only [hq, List.length_nil] at this
  exact absurd h.1 (by omega)

/-! ### Numbered logs -/

variable (num : E → ℕ)

/-- The `n`-th item of the log carries the number `n`, counting from one. -/
def Numbered (log : List E) : Prop := ∀ i e, log[i]? = some e → num e = i + 1

/-- The items numbered from `a + 1` to `b`. -/
def segment (log : List E) (a b : ℕ) : List E := (log.take b).drop a

variable {num}

variable {log l : List E} {d a b : ℕ} {e : E}

theorem Numbered.getElem? (h : Numbered num log) (he : e ∈ log) (hd : num e = d + 1) :
    log[d]? = some e := by
  obtain ⟨i, hi, rfl⟩ := List.getElem_of_mem he
  have := h i _ (List.getElem?_eq_getElem hi)
  have : i = d := by omega
  subst this
  exact List.getElem?_eq_getElem hi

theorem Numbered.of_isPrefix {log' : List E} (h : Numbered num log) (hp : log' <+: log) :
    Numbered num log' := by
  intro i e he
  obtain ⟨r, rfl⟩ := hp
  have hi : i < log'.length := (List.getElem?_eq_some_iff.1 he).1
  exact h i e (by rw [List.getElem?_append_left hi, he])

theorem Numbered.append (h : Numbered num log) (he : num e = log.length + 1) :
    Numbered num (log ++ [e]) := by
  intro i x hx
  rcases Nat.lt_trichotomy i log.length with hi | hi | hi
  · rw [List.getElem?_append_left hi] at hx
    exact h i x hx
  · subst hi
    simp only [List.getElem?_append_right le_rfl, Nat.sub_self, List.getElem?_cons_zero,
      Option.some.injEq] at hx
    subst hx
    exact he
  · rw [List.getElem?_eq_none (by simp; omega)] at hx
    exact absurd hx (by simp)

@[simp] theorem segment_self (log : List E) (a : ℕ) : segment log a a = [] := by
  simp [segment]

theorem segment_append (hb : b ≤ log.length) (l : List E) :
    segment (log ++ l) a b = segment log a b := by
  rw [segment, segment, List.take_append_of_le_length hb]

theorem eq_segment_of_append {r : List E} (h : l ++ r = segment log a b) :
    l = segment log a (a + l.length) := by
  simp only [segment, List.drop_take, Nat.add_sub_cancel_left] at h ⊢
  have hl : l = ((log.drop a).take (b - a)).take l.length := by
    rw [← h, List.take_left]
  have hlen : l.length ≤ ((log.drop a).take (b - a)).length := by
    rw [← h, List.length_append]
    exact Nat.le_add_right ..
  rw [List.length_take] at hlen
  rw [List.take_take, Nat.min_eq_left (by omega)] at hl
  exact hl

theorem segment_succ (hab : a ≤ b) (he : log[b]? = some e) :
    segment log a (b + 1) = segment log a b ++ [e] := by
  have hb : b < log.length := (List.getElem?_eq_some_iff.1 he).1
  rw [segment, segment, List.take_add_one, he, Option.toList_some, List.drop_append_of_le_length]
  simp
  omega

theorem segment_eq_cons (h : segment log a b = e :: l) :
    log[a]? = some e ∧ segment log (a + 1) b = l ∧ a < b := by
  have hlen : a < (log.take b).length := by
    by_contra hle
    rw [segment, List.drop_eq_nil_of_le (by omega)] at h
    exact absurd h (by simp)
  rw [segment, List.drop_eq_getElem_cons hlen] at h
  obtain ⟨h₁, h₂⟩ := List.cons.inj h
  simp only [List.length_take] at hlen
  refine ⟨?_, h₂, by omega⟩
  rw [← h₁, List.getElem_take]
  exact List.getElem?_eq_getElem _

theorem segment_trans {c : ℕ} (hab : a ≤ b) (hbc : b ≤ c) (hc : c ≤ log.length) :
    segment log a b ++ segment log b c = segment log a c := by
  induction c, hbc using Nat.le_induction with
  | base => simp
  | succ c hbc ih =>
    have he : log[c]? = some (log.get ⟨c, hc⟩) := List.getElem?_eq_getElem hc
    rw [segment_succ hbc he, segment_succ (hab.trans hbc) he, ← List.append_assoc,
      ih (by omega)]

theorem length_segment (hb : b ≤ log.length) : (segment log a b).length = b - a := by
  simp [segment, Nat.min_eq_left hb]

theorem Numbered.map_segment (h : Numbered num log) (hab : a ≤ b) (hb : b ≤ log.length) :
    (segment log a b).map num = List.range' (a + 1) (b - a) := by
  induction b, hab using Nat.le_induction with
  | base => simp
  | succ b hab ih =>
    have he : log[b]? = some (log.get ⟨b, hb⟩) := List.getElem?_eq_getElem hb
    rw [segment_succ hab he, List.map_append, ih (by omega), List.map_singleton, h b _ he,
      show b + 1 - a = (b - a) + 1 by omega, List.range'_concat]
    congr 2
    omega

theorem segment_length (log : List E) (a : ℕ) : segment log a log.length = log.drop a := by
  rw [segment, List.take_length]

theorem Numbered.filter_drop (h : Numbered num log) {c : ℕ} (hac : a ≤ c) (hc : c ≤ log.length) :
    (log.drop a).filter (fun e => c < num e) = segment log c log.length := by
  have hnum : ∀ b d e, b ≤ d → d ≤ log.length → e ∈ segment log b d → b < num e ∧ num e ≤ d := by
    intro b d e hbd hd he
    have hmem := List.mem_map_of_mem (f := num) he
    rw [h.map_segment hbd hd, List.mem_range'_1] at hmem
    omega
  rw [← segment_length, ← segment_trans hac hc le_rfl, List.filter_append]
  have h₁ : (segment log a c).filter (fun e => c < num e) = [] := by
    refine List.filter_eq_nil_iff.2 fun e he => ?_
    have := (hnum a c e hac hc he).2
    simp
    omega
  have h₂ : (segment log c log.length).filter (fun e => c < num e) =
      segment log c log.length := by
    refine List.filter_eq_self.2 fun e he => ?_
    simpa using (hnum c log.length e hc le_rfl he).1
  rw [h₁, h₂, List.nil_append]

theorem Numbered.getLast?_segment (h : Numbered num log) (hb : b ≤ log.length)
    (he : (segment log a b).getLast? = some e) : num e = b := by
  have hne : segment log a b ≠ [] := by
    intro hn
    rw [hn] at he
    simp at he
  have hpos := List.length_pos_of_ne_nil hne
  rw [length_segment hb] at hpos
  obtain ⟨b, rfl⟩ : ∃ k, b = k + 1 := ⟨b - 1, by omega⟩
  have hg : log[b]? = some (log.get ⟨b, hb⟩) := List.getElem?_eq_getElem hb
  rw [segment_succ (by omega) hg, List.getLast?_append] at he
  simp only [List.getLast?_singleton, Option.some_or, Option.some.injEq] at he
  subst he
  exact h b _ hg

/-! ### What a mailbox owes to its consumer -/

/-- While the mailbox is open, its queue is the end of the log and reaches back to `d`. -/
def Tracks (log : List E) (m : Mailbox E) (d : ℕ) : Prop :=
  m.closed = false → m.queue <:+ log ∧ log.length ≤ d + m.queue.length

/-- For a consumer that has a take in flight: an open mailbox is as above, and a closed one still
starts with an item that is not beyond the next one. -/
def Waits (num : E → ℕ) (log : List E) (m : Mailbox E) (d : ℕ) : Prop :=
  Tracks log m d ∧ (m.closed = true → ∃ e l, m.queue = e :: l ∧ e ∈ log ∧ num e ≤ d + 1)

theorem Tracks.mono {d' : ℕ} (h : Tracks log m d) (hd : d ≤ d') : Tracks log m d' := by
  intro hc
  obtain ⟨h₁, h₂⟩ := h hc
  exact ⟨h₁, by omega⟩

theorem tracks_nil {n : ℕ} (hd : log.length ≤ d) : Tracks log { maxsize := n } d := by
  intro _
  exact ⟨List.nil_suffix, by simpa using hd⟩

/-- **Publishing keeps an open mailbox in step.** -/
theorem Tracks.put (h : Tracks log m d) (e : E) : Tracks (log ++ [e]) (m.put e) d := by
  intro hc
  by_cases hf : m.full
  · rw [Mailbox.put_of_full hf] at hc
    exact absurd hc (by simp)
  · rw [Mailbox.put_of_not_full hf] at hc ⊢
    obtain ⟨⟨pre, hpre⟩, hlen⟩ := h hc
    refine ⟨⟨pre, ?_⟩, ?_⟩
    · rw [← List.append_assoc, hpre]
    · simp only [List.length_append, List.length_cons, List.length_nil]
      omega

/-- The first item of an open mailbox that tracks the log is not beyond the next one. -/
theorem Tracks.head (hlog : Numbered num log) (h : Tracks log m d) (hc : m.closed = false)
    (hq : m.queue = e :: l) : e ∈ log ∧ num e ≤ d + 1 := by
  obtain ⟨⟨pre, hpre⟩, hlen⟩ := h hc
  rw [hq] at hpre hlen
  have hat : log[pre.length]? = some e := by simp [← hpre]
  refine ⟨List.mem_of_getElem? hat, ?_⟩
  rw [hlog _ _ hat]
  have : log.length = pre.length + (e :: l).length := by rw [← hpre, List.length_append]
  omega

/-- **Publishing keeps a waiting consumer safe**, also when it closes the mailbox. -/
theorem Waits.put (hlog : Numbered num log) (h : Waits num log m d) (e : E) :
    Waits num (log ++ [e]) (m.put e) d := by
  refine ⟨h.1.put e, fun hc => ?_⟩
  by_cases hf : m.full
  · rw [Mailbox.put_of_full hf]
    obtain ⟨x, l, hq⟩ := List.exists_cons_of_ne_nil (Mailbox.queue_ne_nil_of_full hf)
    cases hm : m.closed with
    | true =>
      obtain ⟨y, l', hq', hy, hn⟩ := h.2 hm
      exact ⟨y, l', hq', List.mem_append_left _ hy, hn⟩
    | false =>
      obtain ⟨hx, hn⟩ := h.1.head hlog hm hq
      exact ⟨x, l, hq, List.mem_append_left _ hx, hn⟩
  · rw [Mailbox.put_of_not_full hf] at hc ⊢
    obtain ⟨y, l', hq', hy, hn⟩ := h.2 hc
    exact ⟨y, l' ++ [e], by simp [hq'], List.mem_append_left _ hy, hn⟩

theorem Tracks.waits (h : Tracks log m d) (hc : m.closed = false) : Waits num log m d :=
  ⟨h, fun hc' => absurd (hc.symm.trans hc') (by simp)⟩

/-- **What is taken** is an item of the log that is not beyond the next one. -/
theorem Waits.head (hlog : Numbered num log) (h : Waits num log m d) (hq : m.queue = e :: l) :
    e ∈ log ∧ num e ≤ d + 1 := by
  cases hc : m.closed with
  | false => exact h.1.head hlog hc hq
  | true =>
    obtain ⟨y, l', hq', hy, hn⟩ := h.2 hc
    rw [hq] at hq'
    obtain ⟨rfl, -⟩ := List.cons.inj hq'
    exact ⟨hy, hn⟩

/-- After the take, the mailbox tracks the log for a consumer that has passed the item. -/
theorem Tracks.pop (hlog : Numbered num log) {d' : ℕ} (h : Tracks log m d) (hq : m.queue = e :: l)
    (he : num e ≤ d') : Tracks log { m with queue := l } d' := by
  intro hc
  obtain ⟨⟨pre, hpre⟩, hlen⟩ := h hc
  rw [hq] at hpre hlen
  have hat : log[pre.length]? = some e := by simp [← hpre]
  have hn := hlog _ _ hat
  have hl : log.length = pre.length + (l.length + 1) := by
    rw [← hpre, List.length_append, List.length_cons]
  refine ⟨⟨pre ++ [e], by simpa using hpre⟩, ?_⟩
  simp only
  omega

end BoundedFeed
