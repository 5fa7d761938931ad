/-
**Private reasoning in payloads.**

`_reject_private_reasoning` of `contracts/models.py` walks a payload and refuses it where a key of a
mapping, lower-cased and with every run of other characters replaced by an underscore, is one of a
fixed set.  The set is meant for every spelling of its names.  But it lists `chainofthought` beside
`chain_of_thought` and the other names only with their underscores, so the spelling without a
separator, which is what is left of `reasoningContent`, passes for all of them but two; and so does
a name that is cut at other places.

What `str` makes of a key is the key here.  `str.lower` is a parameter, with its meaning on ASCII.

Main definitions:

* `PrivateReasoning.rejectPrivateReasoning` — the walk;
* `PrivateReasoning.Value.HasKey` — a key of a mapping anywhere in a value;
* `PrivateReasoning.Private` — a spelling of one of the names;
* `PrivateReasoning.Spelled` — a spelling whose words are those of the set.

Main results:

* `PrivateReasoning.rejectPrivateReasoning_eq` — the walk ends at the first key that is listed, and
  names its place;
* `PrivateReasoning.listed_iff_spelled` — the listed keys are those with the right words;
* `PrivateReasoning.rejects_iff` — **the walk refuses what it should exactly when some key is cut
  into the right words or none is private**.
-/

import FaultWitness.Python
import FaultWitness.WordSplits

set_option autoImplicit false

namespace PrivateReasoning

open Python WordSplits

/-! ### Values and keys -/

/-- A payload: mappings, lists and tuples, and everything else. -/
inductive Value
  | dict (items : List (String × Value))
  | list (items : List Value)
  | tuple (items : List Value)
  | other

/-- `str.lower`. -/
structure Lowering where
  lower : String → String
  ascii : ∀ s, (∀ c ∈ s.toList, c.toNat < 128) →
    lower s = String.ofList (s.toList.map Char.toLower)

/-- `_PRIVATE_REASONING_KEYS`. -/
def privateReasoningKeys : List String :=
  ["chain_of_thought", "chainofthought", "cot", "private_reasoning", "reasoning_content",
    "hidden_reasoning", "internal_monologue"]

/-- The characters of the class `[a-z0-9]`. -/
def kept (c : Char) : Bool := ('a' ≤ c ∧ c ≤ 'z') ∨ ('0' ≤ c ∧ c ≤ '9')

/-- `re.sub(r"[^a-z0-9]+", "_", str(key).lower()).strip("_")`. -/
def normalized (L : Lowering) (key : String) : String :=
  String.ofList (strip '_' (collapse kept '_' false (L.lower key).toList))

/-! ### The walk -/

/-- The text of the `ValueError`. -/
def prohibited (place : String) : String :=
  "private reasoning field is prohibited at " ++ place

mutual

/-- `_reject_private_reasoning`. -/
def rejectPrivateReasoning (L : Lowering) (path : String) : Value → Except String Value
  | .dict items => do
    rejectItems L path items
    return .dict items
  | .list items => do
    rejectElements L path 0 items
    return .list items
  | .tuple items => do
    rejectElements L path 0 items
    return .tuple items
  | .other => return .other

/-- The loop over the items of a mapping. -/
def rejectItems (L : Lowering) (path : String) : List (String × Value) → Except String Unit
  | [] => return ()
  | (key, nested) :: items => do
    if normalized L key ∈ privateReasoningKeys then
      throw (prohibited (path ++ "." ++ key))
    let _ ← rejectPrivateReasoning L (path ++ "." ++ key) nested
    rejectItems L path items

/-- The loop over the elements of a list or a tuple. -/
def rejectElements (L : Lowering) (path : String) (index : ℕ) : List Value → Except String Unit
  | [] => return ()
  | nested :: items => do
    let _ ← rejectPrivateReasoning L (path ++ "[" ++ str index ++ "]") nested
    rejectElements L path (index + 1) items

end

/-! ### The keys in a value -/

/-- A key of a mapping anywhere in a value. -/
inductive Value.HasKey (key : String) : Value → Prop
  | here {items : List (String × Value)} {nested : Value} (h : (key, nested) ∈ items) :
      HasKey key (.dict items)
  | dict {items : List (String × Value)} {above : String} {nested : Value}
      (h : (above, nested) ∈ items) (hnested : HasKey key nested) : HasKey key (.dict items)
  | list {items : List Value} {nested : Value} (h : nested ∈ items)
      (hnested : HasKey key nested) : HasKey key (.list items)
  | tuple {items : List Value} {nested : Value} (h : nested ∈ items)
      (hnested : HasKey key nested) : HasKey key (.tuple items)

mutual

/-- The keys of a value with their places, in the order of the walk. -/
def places (path : String) : Value → List (String × String)
  | .dict items => placesOfItems path items
  | .list items => placesOfElements path 0 items
  | .tuple items => placesOfElements path 0 items
  | .other => []

def placesOfItems (path : String) : List (String × Value) → List (String × String)
  | [] => []
  | (key, nested) :: items =>
    (key, path ++ "." ++ key) :: (places (path ++ "." ++ key) nested ++ placesOfItems path items)

def placesOfElements (path : String) (index : ℕ) : List Value → List (String × String)
  | [] => []
  | nested :: items =>
    places (path ++ "[" ++ str index ++ "]") nested ++ placesOfElements path (index + 1) items

end

/-- What a walk comes to that meets these keys. -/
def refusal {α : Type} (L : Lowering) (value : α) (met : List (String × String)) :
    Except String α :=
  match met.find? fun key => normalized L key.1 ∈ privateReasoningKeys with
  | some key => .error (prohibited key.2)
  | none => .ok value

theorem refusal_append {α β : Type} (L : Lowering) (a : α) (b : β)
    (first second : List (String × String)) :
    (do let _ ← refusal L a first; refusal L b second) = refusal L b (first ++ second) := by
  unfold refusal
  rw [List.find?_append]
  cases first.find? fun key => normalized L key.1 ∈ privateReasoningKeys with
  | none => rfl
  | some key => rfl

mutual

/-- **The walk ends at the first key that is listed, and names its place.** -/
theorem rejectPrivateReasoning_eq (L : Lowering) (path : String) : ∀ value : Value,
    rejectPrivateReasoning L path value = refusal L value (places path value)
  | .dict items => by
    rw [rejectPrivateReasoning, rejectItems_eq L path items, places]
    exact (refusal_append L () _ _ []).trans (by rw [List.append_nil])
  | .list items => by
    rw [rejectPrivateReasoning, rejectElements_eq L path 0 items, places]
    exact (refusal_append L () _ _ []).trans (by rw [List.append_nil])
  | .tuple items => by
    rw [rejectPrivateReasoning, rejectElements_eq L path 0 items, places]
    exact (refusal_append L () _ _ []).trans (by rw [List.append_nil])
  | .other => by
    rw [rejectPrivateReasoning, places]
    rfl

theorem rejectItems_eq (L : Lowering) (path : String) : ∀ items : List (String × Value),
    rejectItems L path items = refusal L () (placesOfItems path items)
  | [] => by
    rw [rejectItems, placesOfItems]
    rfl
  | (key, nested) :: items => by
    rw [rejectItems, placesOfItems]
    by_cases hlisted : normalized L key ∈ privateReasoningKeys
    · rw [if_pos hlisted, refusal, List.find?_cons_of_pos (by simpa using hlisted)]
      rfl
    · rw [if_neg hlisted, rejectPrivateReasoning_eq L _ nested, rejectItems_eq L path items,
        refusal_append]
      unfold refusal
      rw [List.find?_cons_of_neg (by simpa using hlisted)]

theorem rejectElements_eq (L : Lowering) (path : String) (index : ℕ) : ∀ items : List Value,
    rejectElements L path index items = refusal L () (placesOfElements path index items)
  | [] => by
    rw [rejectElements, placesOfElements]
    rfl
  | nested :: items => by
    rw [rejectElements, placesOfElements, rejectPrivateReasoning_eq L _ nested,
      rejectElements_eq L path (index + 1) items, refusal_append]

end

/-! ### The places are those of the keys -/

mutual

theorem hasKey_of_mem_places {path key place : String} : ∀ {value : Value},
    (key, place) ∈ places path value → value.HasKey key
  | .dict items, h => by
    rw [places] at h
    exact hasKey_of_mem_placesOfItems h
  | .list items, h => by
    rw [places] at h
    obtain ⟨nested, hmem, hkey⟩ := hasKey_of_mem_placesOfElements h
    exact .list hmem hkey
  | .tuple items, h => by
    rw [places] at h
    obtain ⟨nested, hmem, hkey⟩ := hasKey_of_mem_placesOfElements h
    exact .tuple hmem hkey
  | .other, h => by
    rw [places] at h
    cases h

theorem hasKey_of_mem_placesOfItems {path key place : String} :
    ∀ {items : List (String × Value)}, (key, place) ∈ placesOfItems path items →
      (Value.dict items).HasKey key
  | [], h => by
    rw [placesOfItems] at h
    cases h
  | (first, nested) :: items, h => by
    rw [placesOfItems, List.mem_cons, List.mem_append] at h
    rcases h with heq | h | h
    · cases heq
      exact .here List.mem_cons_self
    · exact .dict List.mem_cons_self (hasKey_of_mem_places h)
    · cases hasKey_of_mem_placesOfItems h with
      | here hmem => exact .here (List.mem_cons_of_mem _ hmem)
      | dict hmem hkey => exact .dict (List.mem_cons_of_mem _ hmem) hkey

theorem hasKey_of_mem_placesOfElements {path key place : String} {index : ℕ} :
    ∀ {items : List Value}, (key, place) ∈ placesOfElements path index items →
      ∃ nested ∈ items, nested.HasKey key
  | [], h => by
    rw [placesOfElements] at h
    cases h
  | nested :: items, h => by
    rw [placesOfElements, List.mem_append] at h
    rcases h with h | h
    · exact ⟨nested, List.mem_cons_self, hasKey_of_mem_places h⟩
    · obtain ⟨value, hmem, hkey⟩ := hasKey_of_mem_placesOfElements h
      exact ⟨value, List.mem_cons_of_mem _ hmem, hkey⟩

end

theorem mem_placesOfItems {path key place : String} {items : List (String × Value)} {first : String}
    {nested : Value} (hmem : (first, nested) ∈ items)
    (h : (key, place) ∈ (first, path ++ "." ++ first) :: places (path ++ "." ++ first) nested) :
    (key, place) ∈ placesOfItems path items := by
  induction items with
  | nil => cases hmem
  | cons item items ih =>
    obtain ⟨head, value⟩ := item
    rw [placesOfItems, ← List.cons_append, List.mem_append]
    rcases List.mem_cons.1 hmem with heq | hmem
    · cases heq
      exact Or.inl h
    · exact Or.inr (ih hmem)

theorem mem_placesOfElements {path key : String} {index : ℕ} {items : List Value} {nested : Value}
    (hmem : nested ∈ items) (h : ∀ path, ∃ place, (key, place) ∈ places path nested) :
    ∃ place, (key, place) ∈ placesOfElements path index items := by
  induction items generalizing index with
  | nil => cases hmem
  | cons value items ih =>
    rw [placesOfElements]
    rcases List.mem_cons.1 hmem with rfl | hmem
    · obtain ⟨place, hplace⟩ := h (path ++ "[" ++ str index ++ "]")
      exact ⟨place, List.mem_append_left _ hplace⟩
    · obtain ⟨place, hplace⟩ := ih hmem
      exact ⟨place, List.mem_append_right _ hplace⟩

theorem exists_place {value : Value} {key : String} (h : value.HasKey key) (path : String) :
    ∃ place, (key, place) ∈ places path value := by
  induction h generalizing path with
  | here hmem =>
    rw [places]
    exact ⟨_, mem_placesOfItems hmem List.mem_cons_self⟩
  | dict hmem _ ih =>
    rw [places]
    obtain ⟨place, hplace⟩ := ih _
    exact ⟨place, mem_placesOfItems hmem (List.mem_cons_of_mem _ hplace)⟩
  | list hmem _ ih =>
    rw [places]
    exact mem_placesOfElements hmem ih
  | tuple hmem _ ih =>
    rw [places]
    exact mem_placesOfElements hmem ih

/-- **The walk refuses a value exactly when one of its keys is listed.** -/
theorem rejects_iff_listed (L : Lowering) (path : String) (value : Value) :
    (∃ err, rejectPrivateReasoning L path value = .error err) ↔
      ∃ key, value.HasKey key ∧ normalized L key ∈ privateReasoningKeys := by
  rw [rejectPrivateReasoning_eq, refusal]
  constructor
  · rintro ⟨err, h⟩
    cases hfind : (places path value).find? fun key => normalized L key.1 ∈ privateReasoningKeys with
    | none =>
      rw [hfind] at h
      cases h
    | some entry =>
      exact ⟨entry.1, hasKey_of_mem_places (List.mem_of_find?_eq_some hfind),
        by simpa using List.find?_some hfind⟩
  · rintro ⟨key, hkey, hlisted⟩
    obtain ⟨place, hplace⟩ := exists_place hkey path
    cases hfind : (places path value).find? fun key => normalized L key.1 ∈ privateReasoningKeys with
    | none => exact absurd hlisted (by simpa using List.find?_eq_none.1 hfind _ hplace)
    | some entry => exact ⟨_, rfl⟩

/-! ### Spellings -/

/-- The names without case and without separators. -/
def privateNames : List String :=
  ["chainofthought", "cot", "privatereasoning", "reasoningcontent", "hiddenreasoning",
    "internalmonologue"]

/-- A key is private if one of the names is left of it without case and separators. -/
def Private (L : Lowering) (key : String) : Prop :=
  String.ofList ((L.lower key).toList.filter kept) ∈ privateNames

/-- The words of the listed keys. -/
def spellings : List (List String) :=
  [["chain", "of", "thought"], ["chainofthought"], ["cot"], ["private", "reasoning"],
    ["reasoning", "content"], ["hidden", "reasoning"], ["internal", "monologue"]]

/-- A key is spelled as listed if separators cut it, without case, into the words of a listed
key. -/
def Spelled (L : Lowering) (key : String) : Prop :=
  (words kept (L.lower key).toList).map String.ofList ∈ spellings

instance (L : Lowering) (key : String) : Decidable (Private L key) :=
  inferInstanceAs (Decidable (_ ∈ privateNames))

theorem ofList_injective : Function.Injective String.ofList :=
  fun _ _ h => String.ofList_inj.1 h

theorem normalized_eq_iff (L : Lowering) (key : String) {name : String}
    (h : String.ofList (strip '_' (collapse kept '_' false name.toList)) = name) :
    normalized L key = name ↔
      (words kept (L.lower key).toList).map String.ofList =
        (words kept name.toList).map String.ofList := by
  have hsep : kept '_' = false := by decide
  rw [(List.map_injective_iff.2 ofList_injective).eq_iff, ← strip_collapse_eq_iff hsep,
    ← ofList_injective.eq_iff, h, normalized]

/-- **The listed keys are those with the right words.** -/
theorem listed_iff_spelled (L : Lowering) (key : String) :
    normalized L key ∈ privateReasoningKeys ↔ Spelled L key := by
  have hcanonical : ∀ name ∈ privateReasoningKeys,
      String.ofList (strip '_' (collapse kept '_' false name.toList)) = name := by decide +kernel
  have hspellings : spellings =
      privateReasoningKeys.map fun name => (words kept name.toList).map String.ofList := by
    decide +kernel
  rw [Spelled, hspellings, List.mem_map]
  constructor
  · intro h
    exact ⟨_, h, ((normalized_eq_iff L key (hcanonical _ h)).1 rfl).symm⟩
  · rintro ⟨name, hname, heq⟩
    rw [(normalized_eq_iff L key (hcanonical name hname)).2 heq.symm]
    exact hname

theorem Spelled.isPrivate {L : Lowering} {key : String} (h : Spelled L key) : Private L key := by
  have hjoined : ∀ ws ∈ spellings, String.join ws ∈ privateNames := by decide +kernel
  have hjoin := hjoined _ h
  rw [Private, ← flatten_words]
  have hflatten : String.join ((words kept (L.lower key).toList).map String.ofList) =
      String.ofList (words kept (L.lower key).toList).flatten := by
    rw [← String.toList_inj, String.toList_ofList, String.toList_join, List.flatMap_map]
    simp [List.flatMap_def]
  rwa [← hflatten]

/-- **The walk refuses exactly what it should, if and only if** some key of the value is spelled as
listed, or no key is private. -/
theorem rejects_iff (L : Lowering) (path : String) (value : Value) :
    ((∃ err, rejectPrivateReasoning L path value = .error err) ↔
        ∃ key, value.HasKey key ∧ Private L key) ↔
      (∃ key, value.HasKey key ∧ Spelled L key) ∨
        ∀ key, value.HasKey key → ¬ Private L key := by
  rw [rejects_iff_listed]
  simp only [listed_iff_spelled]
  constructor
  · intro h
    by_cases hsome : ∃ key, value.HasKey key ∧ Private L key
    · exact Or.inl (h.2 hsome)
    · exact Or.inr fun key hkey hprivate => hsome ⟨key, hkey, hprivate⟩
  · rintro (⟨key, hkey, hspelled⟩ | hnone)
    · exact ⟨fun _ => ⟨key, hkey, hspelled.isPrivate⟩, fun _ => ⟨key, hkey, hspelled⟩⟩
    · exact ⟨fun ⟨key, hkey, hspelled⟩ => absurd hspelled.isPrivate (hnone key hkey),
        fun ⟨key, hkey, hprivate⟩ => absurd hprivate (hnone key hkey)⟩

/-! ### A key in camel case -/

/-- `str.lower` on ASCII, and the identity on other characters. -/
def asciiLowering : Lowering where
  lower s := String.ofList (s.toList.map Char.toLower)
  ascii _ _ := rfl

/-- A payload with the key `reasoningContent` passes. -/
theorem not_rejects : ¬ ∀ (L : Lowering) (path : String) (value : Value),
    (∃ err, rejectPrivateReasoning L path value = .error err) ↔
      ∃ key, value.HasKey key ∧ Private L key := by
  intro h
  have hkey : (Value.dict [("reasoningContent", .other)]).HasKey "reasoningContent" :=
    .here List.mem_cons_self
  obtain ⟨key, hmem, hlisted⟩ := (rejects_iff_listed asciiLowering "payload" _).1
    ((h asciiLowering "payload" _).2 ⟨_, hkey, by decide +kernel⟩)
  obtain rfl : key = "reasoningContent" := by
    cases hmem with
    | here hitem =>
      obtain ⟨heq, -⟩ : _ ∧ _ := by simpa using hitem
      exact heq
    | dict hitem hnested =>
      obtain ⟨-, rfl⟩ : _ ∧ _ := by simpa using hitem
      cases hnested
  exact absurd hlisted (by decide +kernel)

end PrivateReasoning
