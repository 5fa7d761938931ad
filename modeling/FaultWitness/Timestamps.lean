/-
**Instants in UTC and their texts.**

A `datetime` of Python with the offset `+00:00`, the text that `isoformat` writes for it, and the one
that `strftime` writes with the format `%Y%m%dT%H%M%S%fZ`.  Of the texts that `fromisoformat` reads
only those that `isoformat` writes occur, and only these are read here.

Main definitions:

* `Timestamps.DateTime` — an instant;
* `Timestamps.DateTime.isoformat`, `Timestamps.fromisoformat` — its text and the way back;
* `Timestamps.DateTime.compact` — its text for sorting.

Main results:

* `Timestamps.fromisoformat_isoformat` — **reading the text of an instant gives the instant**;
* `Timestamps.DateTime.dot_notMem_compact` — the text for sorting has no full stop.
-/

import Mathlib.Data.List.Basic
import Mathlib.Algebra.Group.Nat.Defs

set_option autoImplicit false

namespace Timestamps

/-! ### Numbers of a fixed width -/

/-- A number below `10 ^ width`, with leading zeros. -/
def pad : ℕ → ℕ → List Char
  | 0, _ => []
  | width + 1, n => pad width (n / 10) ++ [Nat.digitChar (n % 10)]

/-- The value of a digit. -/
def digitValue (c : Char) : Option ℕ :=
  if '0' ≤ c ∧ c ≤ '9' then some (c.toNat - 48) else none

/-- Reading digits, after the value `n` of those before. -/
def readDigits (n : ℕ) : List Char → Option ℕ
  | [] => some n
  | c :: cs => (digitValue c).bind fun d => readDigits (10 * n + d) cs

@[simp] theorem length_pad (width n : ℕ) : (pad width n).length = width := by
  induction width generalizing n with
  | zero => rfl
  | succ width ih => rw [pad, List.length_append, ih, List.length_singleton]

theorem digitValue_digitChar : ∀ d < 10, digitValue (Nat.digitChar d) = some d := by decide

theorem readDigits_append (n : ℕ) (cs ds : List Char) :
    readDigits n (cs ++ ds) = (readDigits n cs).bind fun m => readDigits m ds := by
  induction cs generalizing n with
  | nil => rfl
  | cons c cs ih =>
    rw [List.cons_append, readDigits, readDigits]
    cases digitValue c with
    | none => rfl
    | some d => exact ih _

theorem readDigits_pad {width n : ℕ} (h : n < 10 ^ width) : readDigits 0 (pad width n) = some n := by
  induction width generalizing n with
  | zero =>
    rw [Nat.pow_zero, Nat.lt_one_iff] at h
    rw [h]
    rfl
  | succ width ih =>
    have hdiv : n / 10 < 10 ^ width := by
      rw [Nat.pow_succ] at h
      omega
    have hlast : n % 10 < 10 := Nat.mod_lt _ (by decide)
    rw [pad, readDigits_append, ih hdiv]
    simp only [Option.bind_some, readDigits, digitValue_digitChar _ hlast]
    congr 1
    omega

theorem isDigit_digitChar : ∀ d < 10, (Nat.digitChar d).isDigit = true := by decide

theorem isDigit_of_mem_pad {width n : ℕ} {c : Char} (h : c ∈ pad width n) : c.isDigit = true := by
  induction width generalizing n with
  | zero => cases h
  | succ width ih =>
    rw [pad, List.mem_append, List.mem_singleton] at h
    rcases h with h | rfl
    · exact ih h
    · have hlast : n % 10 < 10 := Nat.mod_lt _ (by decide)
      exact isDigit_digitChar _ hlast

/-! ### Instants -/

def daysInMonth (year month : ℕ) : ℕ :=
  if month = 2 then
    if (year % 4 = 0 ∧ year % 100 ≠ 0) ∨ year % 400 = 0 then 29 else 28
  else if month = 4 ∨ month = 6 ∨ month = 9 ∨ month = 11 then 30
  else 31

/-- The fields of an instant, from the year to the microsecond. -/
structure Fields where
  year : ℕ
  month : ℕ
  day : ℕ
  hour : ℕ
  minute : ℕ
  second : ℕ
  microsecond : ℕ
deriving DecidableEq

def Fields.Valid (f : Fields) : Prop :=
  (1 ≤ f.year ∧ f.year ≤ 9999) ∧ (1 ≤ f.month ∧ f.month ≤ 12) ∧
    (1 ≤ f.day ∧ f.day ≤ daysInMonth f.year f.month) ∧ f.hour ≤ 23 ∧ f.minute ≤ 59 ∧
    f.second ≤ 59 ∧ f.microsecond ≤ 999999

instance (f : Fields) : Decidable f.Valid :=
  inferInstanceAs (Decidable ((_ ∧ _) ∧ (_ ∧ _) ∧ (_ ∧ _) ∧ _ ∧ _ ∧ _ ∧ _))

/-- A `datetime` with the offset of UTC. -/
structure DateTime where
  fields : Fields
  valid : fields.Valid
deriving DecidableEq

/-- The fields in the order in which instants are compared. -/
def DateTime.key (t : DateTime) : List ℕ :=
  [t.fields.year, t.fields.month, t.fields.day, t.fields.hour, t.fields.minute, t.fields.second,
    t.fields.microsecond]

/-- The date and the time to the second. -/
def Fields.dateTime (f : Fields) : List Char :=
  pad 4 f.year ++ '-' :: pad 2 f.month ++ '-' :: pad 2 f.day ++ 'T' :: pad 2 f.hour ++
    ':' :: pad 2 f.minute ++ ':' :: pad 2 f.second

def Fields.isoformat (f : Fields) : List Char :=
  f.dateTime ++ (if f.microsecond = 0 then [] else '.' :: pad 6 f.microsecond) ++ "+00:00".toList

def DateTime.isoformat (t : DateTime) : String := String.ofList t.fields.isoformat

/-- The text of the format `%Y%m%dT%H%M%S%fZ`. -/
def DateTime.compact (t : DateTime) : List Char :=
  pad 4 t.fields.year ++ pad 2 t.fields.month ++ pad 2 t.fields.day ++ 'T' :: pad 2 t.fields.hour ++
    pad 2 t.fields.minute ++ pad 2 t.fields.second ++ pad 6 t.fields.microsecond ++ ['Z']

/-! ### Reading -/

/-- The number in the characters from a position on. -/
def numberAt (cs : List Char) (start width : ℕ) : Option ℕ := readDigits 0 ((cs.drop start).take width)

/-- The microseconds after the seconds. -/
def readMicroseconds (cs : List Char) : Option ℕ :=
  if cs = "+00:00".toList then some 0 else numberAt cs 1 6

def readFields (cs : List Char) : Option Fields := do
  let year ← numberAt cs 0 4
  let month ← numberAt cs 5 2
  let day ← numberAt cs 8 2
  let hour ← numberAt cs 11 2
  let minute ← numberAt cs 14 2
  let second ← numberAt cs 17 2
  let microsecond ← readMicroseconds (cs.drop 19)
  return { year, month, day, hour, minute, second, microsecond }

/-- The texts read are exactly those that `isoformat` writes. -/
def fromisoformat (text : String) : Option DateTime :=
  match readFields text.toList with
  | none => none
  | some f =>
    if h : f.Valid then
      if f.isoformat = text.toList then some ⟨f, h⟩ else none
    else none

theorem numberAt_append {width n : ℕ} (h : n < 10 ^ width) (before after : List Char) :
    numberAt (before ++ (pad width n ++ after)) before.length width = some n := by
  rw [numberAt, List.drop_left, List.take_append_of_le_length (Nat.le_of_eq (length_pad width n).symm),
    List.take_of_length_le (Nat.le_of_eq (length_pad width n)), readDigits_pad h]

theorem Fields.Valid.lt_pow {f : Fields} (h : f.Valid) :
    f.year < 10 ^ 4 ∧ f.month < 10 ^ 2 ∧ f.day < 10 ^ 2 ∧ f.hour < 10 ^ 2 ∧ f.minute < 10 ^ 2 ∧
      f.second < 10 ^ 2 ∧ f.microsecond < 10 ^ 6 := by
  obtain ⟨⟨-, hyear⟩, ⟨-, hmonth⟩, ⟨-, hday⟩, hhour, hminute, hsecond, hmicro⟩ := h
  have hdays : daysInMonth f.year f.month ≤ 31 := by
    rw [daysInMonth]
    split_ifs <;> omega
  refine ⟨?_, ?_, ?_, ?_, ?_, ?_, ?_⟩ <;> omega

theorem readMicroseconds_isoformat {n : ℕ} (h : n < 10 ^ 6) :
    readMicroseconds ((if n = 0 then [] else '.' :: pad 6 n) ++ "+00:00".toList) = some n := by
  by_cases hn : n = 0
  · rw [if_pos hn, hn]
    rfl
  · rw [if_neg hn, readMicroseconds, if_neg (by simp)]
    exact numberAt_append h ['.'] "+00:00".toList

theorem readFields_isoformat {f : Fields} (h : f.Valid) : readFields f.isoformat = some f := by
  obtain ⟨hyear, hmonth, hday, hhour, hminute, hsecond, hmicro⟩ := h.lt_pow
  generalize htail : (if f.microsecond = 0 then [] else '.' :: pad 6 f.microsecond) ++
    "+00:00".toList = tail
  have hiso : f.isoformat = f.dateTime ++ tail := by
    rw [← htail, Fields.isoformat, List.append_assoc]
  have h0 := numberAt_append hyear [] ('-' :: pad 2 f.month ++ '-' :: pad 2 f.day ++
    'T' :: pad 2 f.hour ++ ':' :: pad 2 f.minute ++ ':' :: pad 2 f.second ++ tail)
  have h1 := numberAt_append hmonth (pad 4 f.year ++ ['-']) ('-' :: pad 2 f.day ++
    'T' :: pad 2 f.hour ++ ':' :: pad 2 f.minute ++ ':' :: pad 2 f.second ++ tail)
  have h2 := numberAt_append hday (pad 4 f.year ++ '-' :: pad 2 f.month ++ ['-'])
    ('T' :: pad 2 f.hour ++ ':' :: pad 2 f.minute ++ ':' :: pad 2 f.second ++ tail)
  have h3 := numberAt_append hhour (pad 4 f.year ++ '-' :: pad 2 f.month ++ '-' :: pad 2 f.day ++
    ['T']) (':' :: pad 2 f.minute ++ ':' :: pad 2 f.second ++ tail)
  have h4 := numberAt_append hminute (pad 4 f.year ++ '-' :: pad 2 f.month ++ '-' :: pad 2 f.day ++
    'T' :: pad 2 f.hour ++ [':']) (':' :: pad 2 f.second ++ tail)
  have h5 := numberAt_append hsecond (pad 4 f.year ++ '-' :: pad 2 f.month ++ '-' :: pad 2 f.day ++
    'T' :: pad 2 f.hour ++ ':' :: pad 2 f.minute ++ [':']) tail
  have hdrop : (f.dateTime ++ tail).drop 19 = tail := by
    have hlength : f.dateTime.length = 19 := by simp [Fields.dateTime]
    rw [← hlength, List.drop_left]
  simp only [List.length_append, List.length_cons, List.length_nil, length_pad, List.append_assoc,
    List.cons_append, List.nil_append, Nat.zero_add, Nat.reduceAdd] at h0 h1 h2 h3 h4 h5
  rw [readFields, hiso, hdrop, ← htail, readMicroseconds_isoformat hmicro, htail]
  simp only [Fields.dateTime, List.append_assoc, List.cons_append, h0, h1, h2, h3, h4, h5]
  rfl

/-- **Reading the text of an instant gives the instant.** -/
theorem fromisoformat_isoformat (t : DateTime) : fromisoformat t.isoformat = some t := by
  have htext : t.isoformat.toList = t.fields.isoformat := String.toList_ofList
  rw [fromisoformat, htext, readFields_isoformat t.valid]
  simp only [dif_pos t.valid, if_true]

theorem isoformat_injective : Function.Injective DateTime.isoformat := by
  intro s t h
  have := fromisoformat_isoformat s
  rw [h, fromisoformat_isoformat] at this
  exact (Option.some.inj this).symm

/-! ### The text for sorting -/

theorem DateTime.dot_notMem_compact (t : DateTime) : '.' ∉ t.compact := by
  have hpad : ∀ width n, '.' ∉ pad width n := by
    intro width n hmem
    exact absurd (isDigit_of_mem_pad hmem) (by decide)
  simp [DateTime.compact, hpad]

end Timestamps
