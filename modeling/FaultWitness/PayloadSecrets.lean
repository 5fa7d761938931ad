/-
**Secrets in what is sent upstream.**

Before a call the gateway searches the contents of the messages, and the schemas as JSON prints them.
What the channel sends is more: `_payload` of `faultwitness/models/channel.py` dumps every field of a
message, and the tools as they are.  In a printed schema a text stands between quotes, with line breaks,
quotes and characters beyond ASCII written as escapes; a secret that stands next to one of these, or
is spelled with one, may not be found there.

No pattern of a secret accepts a quote, and none matches what stands between the texts.  So the printed
schemas hold a secret exactly if one of their texts does, as it is escaped.

Main definitions:

* `ModelGateway.payload` — what is sent;
* `ModelGateway.callerTexts` — the texts of it that come from the caller;
* `ModelGateway.Scanned` — a content, or an escaped text of a schema, holds a secret.

Main results:

* `ModelGateway.rejectSensitiveRequest_iff` — **what the search finds**;
* `ModelGateway.refused_iff` — a request is refused exactly if the search finds something;
* `ModelGateway.no_secret_leaves_iff` — **when a secret that would be sent is found**.
-/

import FaultWitness.GatewayStreams
import FaultWitness.SeparatedTexts

set_option autoImplicit false

namespace ModelGateway

open Python TextPatterns OpenAICompatibleChannel

/-! ### The payload -/

def Role.value : Role → String
  | .system => "system"
  | .user => "user"
  | .assistant => "assistant"
  | .tool => "tool"

/-- A message as it is dumped, without the fields that are `None`. -/
def dumpMessage (m : ModelMessage) : Json :=
  .obj ([("role", .str m.role.value), ("content", .str m.content)] ++
    (m.name.toList.map fun name => ("name", .str name)) ++
    m.toolCallId.toList.map fun id => ("tool_call_id", .str id))

/-- The assignment of a key of a dictionary. -/
def setItem (fields : List (String × Json)) (key : String) (value : Json) : List (String × Json) :=
  if fields.any fun f => f.1 = key then fields.map fun f => if f.1 = key then (key, value) else f
  else fields ++ [(key, value)]

/-- What is sent beside the tools. -/
def payloadBody (request : ModelRequest) (profile : ModelProfile) (stream : Bool) :
    List (String × Json) :=
  let body := profile.requestOverrides.foldl (fun body f => setItem body f.1 (.bool f.2))
    [("model", .str profile.modelId), ("messages", .arr (request.messages.map dumpMessage)),
      ("stream", .bool stream)]
  let body :=
    if stream then setItem body "stream_options" (.obj [("include_usage", .bool true)])
    else body
  if request.targetJsonSchema.isSome then
    setItem body "response_format" (.obj [("type", .str "json_object")])
  else body

/-- The method `_payload`. -/
def payload (request : ModelRequest) (profile : ModelProfile) (stream : Bool) :
    Except GatewayError (List (String × Json)) :=
  match request.toolSchemas with
  | [] => .ok (payloadBody request profile stream)
  | first :: rest =>
    let body := setItem (payloadBody request profile stream) "tools"
      (.arr ((first :: rest).map Json.obj))
    match (getItem (.obj first) "function").bind fun function => getItem function "name" with
    | none => .error (.failure { code := .configuration, retryable := false })
    | some name =>
      .ok (setItem body "tool_choice"
        (.obj [("type", .str "function"), ("function", .obj [("name", name)])]))

mutual

/-- The texts of a value, with the keys of its objects. -/
def textsIn : Json → List String
  | .str s => [s]
  | .arr items => textsInItems items
  | .obj fields => textsInFields fields
  | _ => []

def textsInItems : List Json → List String
  | [] => []
  | j :: js => textsIn j ++ textsInItems js

def textsInFields : List (String × Json) → List String
  | [] => []
  | (k, j) :: fs => k :: textsIn j ++ textsInFields fs

end

/-- The texts of a message. -/
def messageTexts (m : ModelMessage) : List String := m.content :: (m.name.toList ++ m.toolCallId.toList)

/-- The texts that the caller has supplied and that are sent. -/
def callerTexts (request : ModelRequest) : List String :=
  request.messages.flatMap messageTexts ++ request.toolSchemas.flatMap textsInFields

/-- The texts of the schemas of a request. -/
def schemaTexts (request : ModelRequest) : List String :=
  request.targetJsonSchema.toList.flatMap textsInFields ++ request.toolSchemas.flatMap textsInFields

theorem mem_setItem (fields : List (String × Json)) (key : String) (value : Json) :
    (key, value) ∈ setItem fields key value := by
  rw [setItem]
  split
  · rename_i hany
    obtain ⟨f, hf, hkey⟩ := List.any_eq_true.1 hany
    refine List.mem_map.2 ⟨f, hf, if_pos ?_⟩
    exact of_decide_eq_true hkey
  · exact List.mem_append.2 (.inr List.mem_cons_self)

variable {fields : List (String × Json)}

theorem mem_setItem_of_ne {key other : String} {value j : Json} (h : (other, j) ∈ fields)
    (hkey : other ≠ key) : (other, j) ∈ setItem fields key value := by
  rw [setItem]
  split
  · exact List.mem_map.2 ⟨_, h, if_neg hkey⟩
  · exact List.mem_append.2 (.inl h)

theorem textsInItems_eq (items : List Json) : textsInItems items = items.flatMap textsIn := by
  induction items with
  | nil => rfl
  | cons j js ih => rw [textsInItems, ih, List.flatMap_cons]

theorem textsInFields_eq (fields : List (String × Json)) :
    textsInFields fields = fields.flatMap fun f => f.1 :: textsIn f.2 := by
  induction fields with
  | nil => rfl
  | cons f fs ih => rw [textsInFields, ih, List.flatMap_cons, List.cons_append]

theorem textsInItems_obj (schemas : List (List (String × Json))) :
    textsInItems (schemas.map Json.obj) = schemas.flatMap textsInFields := by
  rw [textsInItems_eq, List.flatMap_map]
  exact List.flatMap_congr fun fields _ => by rw [textsIn]

variable {text : String}

theorem mem_textsIn_dumpMessage {m : ModelMessage} (h : text ∈ messageTexts m) :
    text ∈ textsIn (dumpMessage m) := by
  rw [dumpMessage, textsIn, textsInFields_eq]
  simp only [messageTexts, List.mem_cons, List.mem_append, Option.mem_toList] at h
  simp only [List.mem_flatMap, List.mem_append, List.mem_cons, List.mem_map, Option.mem_toList]
  rcases h with rfl | hname | hid
  · exact ⟨_, .inl (.inl (.inr (.inl rfl))), .inr (by simp [textsIn])⟩
  · exact ⟨_, .inl (.inr ⟨text, hname, rfl⟩), .inr (by simp [textsIn])⟩
  · exact ⟨_, .inr ⟨text, hid, rfl⟩, .inr (by simp [textsIn])⟩

variable {body : List (String × Json)}

theorem mem_overridden {key : String} {j : Json} {overrides : List (String × Bool)}
    (hoverrides : ∀ f ∈ overrides, f.1 ≠ key) (h : (key, j) ∈ body) :
    (key, j) ∈ overrides.foldl (fun body f => setItem body f.1 (.bool f.2)) body := by
  induction overrides generalizing body with
  | nil => exact h
  | cons f fs ih =>
    obtain ⟨hf, hfs⟩ := List.forall_mem_cons.1 hoverrides
    exact ih hfs (mem_setItem_of_ne h hf.symm)

variable {request : ModelRequest} {profile : ModelProfile}

theorem messages_mem_payloadBody {stream : Bool}
    (hoverrides : ∀ f ∈ profile.requestOverrides, f.1 ≠ "messages") :
    ("messages", Json.arr (request.messages.map dumpMessage)) ∈ payloadBody request profile stream := by
  have hbody := mem_overridden (j := .arr (request.messages.map dumpMessage)) hoverrides
    (List.mem_cons_of_mem ("model", .str profile.modelId)
      (List.mem_cons_self (l := [("stream", .bool stream)])))
  rw [payloadBody]
  split
  · split
    · exact mem_setItem_of_ne (mem_setItem_of_ne hbody (by decide)) (by decide)
    · exact mem_setItem_of_ne hbody (by decide)
  · split
    · exact mem_setItem_of_ne hbody (by decide)
    · exact hbody

/-- **What the caller has supplied is sent**, as it is. -/
theorem callerTexts_sent {stream : Bool}
    (hoverrides : ∀ f ∈ profile.requestOverrides, f.1 ≠ "messages")
    (h : payload request profile stream = .ok body) (htext : text ∈ callerTexts request) :
    text ∈ textsInFields body := by
  have hmessages : ("messages", Json.arr (request.messages.map dumpMessage)) ∈
      payloadBody request profile stream := messages_mem_payloadBody hoverrides
  -- The messages and the tools are entries of the payload.
  obtain ⟨hsent, htools⟩ : ("messages", Json.arr (request.messages.map dumpMessage)) ∈ body ∧
      (request.toolSchemas ≠ [] → ("tools", Json.arr (request.toolSchemas.map Json.obj)) ∈ body) := by
    rw [payload] at h
    cases hschemas : request.toolSchemas with
    | nil =>
      rw [hschemas] at h
      exact ⟨Except.ok.inj h ▸ hmessages, fun hne => absurd rfl hne⟩
    | cons first rest =>
      rw [hschemas] at h
      dsimp only at h
      split at h
      · cases h
      · rw [← Except.ok.inj h]
        exact ⟨mem_setItem_of_ne (mem_setItem_of_ne hmessages (by decide)) (by decide),
          fun _ => mem_setItem_of_ne (mem_setItem _ _ _) (by decide)⟩
  have hentry : ∀ {key : String} {items : List Json}, (key, Json.arr items) ∈ body →
      ∀ {text}, text ∈ textsInItems items → text ∈ textsInFields body := by
    intro key items hmem text hin
    rw [textsInFields_eq, List.mem_flatMap]
    refine ⟨_, hmem, List.mem_cons_of_mem _ ?_⟩
    rwa [textsIn]
  rcases List.mem_append.1 htext with hmessage | htool
  · obtain ⟨m, hm, hin⟩ := List.mem_flatMap.1 hmessage
    refine hentry hsent ?_
    rw [textsInItems_eq, List.flatMap_map, List.mem_flatMap]
    exact ⟨m, hm, mem_textsIn_dumpMessage hin⟩
  · have hsome : request.toolSchemas ≠ [] := by
      intro hnil
      rw [hnil] at htool
      cases htool
    refine hentry (htools hsome) ?_
    rwa [textsInItems_obj]

/-! ### Escaped texts -/

/-- A text as JSON prints it between quotes. -/
def escaped (text : String) : String := String.join (text.toList.map escape)

def Secret (isLetter : Char → Bool) (text : String) : Prop :=
  ∃ p ∈ secretPatterns, p.search isLetter text = true

/-- **What the search finds**: a content that holds a secret, or a text of a schema that does so as it is
escaped. -/
def Scanned (isLetter : Char → Bool) (request : ModelRequest) : Prop :=
  (∃ m ∈ request.messages, Secret isLetter m.content) ∨
    ∃ text ∈ schemaTexts request, Secret isLetter (escaped text)

/-- What stands between the texts of a printed value. -/
def dull : List Char := "0123456789+-.eENaIfityrulsn[]\x7b\x7d:, ".toList

theorem rejects_secretPatterns : ∀ p ∈ secretPatterns, p.rejects '"' = true := by decide +kernel

theorem blocked_secretPatterns : ∀ p ∈ secretPatterns, p.blocked dull = true := by decide +kernel

/-- A text that is woven of some escaped texts. -/
def Woven (texts : List String) (cs : List Char) : Prop :=
  ∃ parts, Weaves '"' dull parts cs ∧ ∀ s, s ∈ parts ↔ ∃ text ∈ texts, (escaped text).toList = s

namespace Woven

variable {cs : List Char}

theorem of_dull (h : ∀ c ∈ cs, c ∈ dull) : Woven [] cs :=
  ⟨[], .plain h, fun s => by simp⟩

theorem quoted (text : String) : Woven [text] (quote text).toList := by
  refine ⟨[(escaped text).toList], ?_, fun s => by simp [eq_comm]⟩
  have hquote : (quote text).toList = [] ++ '"' :: ((escaped text).toList ++ '"' :: []) := by
    rw [quote, String.toList_append, String.toList_append]
    rfl
  have hnil : ∀ c ∈ ([] : List Char), c ∈ dull := by simp
  rw [hquote]
  exact .part hnil _ (.plain hnil)

variable {texts : List String}

theorem append {texts' : List String} {cs' : List Char} (h : Woven texts cs)
    (h' : Woven texts' cs') : Woven (texts ++ texts') (cs ++ cs') := by
  obtain ⟨parts, hparts, hmem⟩ := h
  obtain ⟨parts', hparts', hmem'⟩ := h'
  refine ⟨parts ++ parts', hparts.append hparts', fun s => ?_⟩
  rw [List.mem_append, hmem, hmem']
  simp only [List.mem_append, or_and_right, exists_or]

theorem congr {texts' : List String} (h : Woven texts cs)
    (hsame : ∀ text, text ∈ texts ↔ text ∈ texts') : Woven texts' cs := by
  obtain ⟨parts, hparts, hmem⟩ := h
  refine ⟨parts, hparts, fun s => (hmem s).trans ?_⟩
  simp only [hsame]

theorem intercalate {α : Type} {texts : α → List String} {text : α → List Char} {as : List α}
    (h : ∀ a ∈ as, Woven (texts a) (text a)) :
    Woven (as.flatMap texts) ([',', ' '].intercalate (as.map text)) := by
  choose! parts hparts hmem using h
  refine ⟨as.flatMap parts, Weaves.intercalate (mem_of_all (by decide)) hparts, fun s => ?_⟩
  simp only [List.mem_flatMap]
  constructor
  · rintro ⟨a, ha, hs⟩
    obtain ⟨text, htext, heq⟩ := (hmem a ha s).1 hs
    exact ⟨text, ⟨a, ha, htext⟩, heq⟩
  · rintro ⟨text, ⟨a, ha, htext⟩, heq⟩
    exact ⟨a, ha, (hmem a ha s).2 ⟨text, htext, heq⟩⟩

/-- **A woven text holds a secret exactly if one of its escaped texts does.** -/
theorem secret_iff {isLetter : Char → Bool} {s : String} (h : Woven texts s.toList) :
    Secret isLetter s ↔ ∃ text ∈ texts, Secret isLetter (escaped text) := by
  obtain ⟨parts, hparts, hmem⟩ := h
  have hword : isWord isLetter '"' = false := rfl
  have hsearch : ∀ p ∈ secretPatterns, (p.search isLetter s = true ↔
      ∃ text ∈ texts, p.search isLetter (escaped text) = true) := by
    intro p hp
    rw [Pattern.search, hparts.searchFrom_iff hword (rejects_secretPatterns p hp)
      (blocked_secretPatterns p hp)]
    constructor
    · rintro ⟨part, hpart, hmatch⟩
      obtain ⟨text, htext, rfl⟩ := (hmem part).1 hpart
      exact ⟨text, htext, hmatch⟩
    · rintro ⟨text, htext, hmatch⟩
      exact ⟨_, (hmem _).2 ⟨text, htext, rfl⟩, hmatch⟩
  constructor
  · rintro ⟨p, hp, hmatch⟩
    obtain ⟨text, htext, hmatch⟩ := (hsearch p hp).1 hmatch
    exact ⟨text, htext, p, hp, hmatch⟩
  · rintro ⟨text, htext, p, hp, hmatch⟩
    exact ⟨p, hp, (hsearch p hp).2 ⟨text, htext, hmatch⟩⟩

end Woven

/-! ### Printed values -/

mutual

/-- The texts of the floats of a value. -/
def floatsIn : Json → List String
  | .float text => [text]
  | .arr items => floatsInItems items
  | .obj fields => floatsInFields fields
  | _ => []

def floatsInItems : List Json → List String
  | [] => []
  | j :: js => floatsIn j ++ floatsInItems js

def floatsInFields : List (String × Json) → List String
  | [] => []
  | (_, j) :: fs => floatsIn j ++ floatsInFields fs

end

theorem spacedItems_eq (items : List Json) : spacedItems items = items.map spaced := by
  induction items with
  | nil => rfl
  | cons j js ih => rw [spacedItems, ih, List.map_cons]

theorem spacedFields_eq (fields : List (String × Json)) :
    spacedFields fields = fields.map fun f => (f.1, spaced f.2) := by
  induction fields with
  | nil => rfl
  | cons f fs ih => rw [spacedFields, ih, List.map_cons]

theorem dull_of_isNumeric {c : Char} (h : isNumeric c = true) : c ∈ dull := by
  rw [isNumeric, Bool.or_eq_true] at h
  rcases h with hdigit | hsign
  · obtain ⟨hlow, hhigh⟩ : 48 ≤ c.toNat ∧ c.toNat ≤ 57 := by
      simpa [Char.isDigit, UInt32.le_iff_toNat_le] using hdigit
    have hall : ∀ n < 58, 48 ≤ n → Char.ofNat n ∈ dull := by decide
    rw [← Char.ofNat_toNat c]
    exact hall c.toNat (by omega) hlow
  · have hall : ∀ c ∈ ['-', '+', '.', 'e', 'E'], c ∈ dull := mem_of_all (by decide)
    exact hall c (List.contains_iff_mem.1 hsign)

theorem dull_floatText (h : isFloatText text = true) : ∀ c ∈ text.toList, c ∈ dull := by
  rcases isFloatText_cases h with rfl | rfl | rfl | ⟨hall, -, -⟩
  · exact mem_of_all (by decide)
  · exact mem_of_all (by decide)
  · exact mem_of_all (by decide)
  · exact fun c hc => dull_of_isNumeric (List.all_eq_true.1 hall c hc)

theorem woven_arr {items : List Json} (h : ∀ j ∈ items, Woven (textsIn j) (spaced j).toList) :
    Woven (textsIn (.arr items)) (spaced (.arr items)).toList := by
  rw [textsIn, textsInItems_eq, spaced, spacedItems_eq, String.toList_append, String.toList_append,
    String.toList_intercalate, List.map_map]
  have hmiddle : Woven (items.flatMap textsIn)
      ([',', ' '].intercalate (items.map (String.toList ∘ spaced))) := Woven.intercalate h
  have hopen : Woven [] "[".toList := .of_dull (mem_of_all (by decide))
  have hclose : Woven [] "]".toList := .of_dull (mem_of_all (by decide))
  exact ((hopen.append hmiddle).append hclose).congr (by simp)

theorem woven_obj (h : ∀ f ∈ fields, Woven (textsIn f.2) (spaced f.2).toList) :
    Woven (textsIn (.obj fields)) (spaced (.obj fields)).toList := by
  have hperm := List.perm_insertionSort (fun a b : String × Json => a.1 ≤ b.1) fields
  have hfield : ∀ f ∈ fields.insertionSort fun a b => a.1 ≤ b.1,
      Woven (f.1 :: textsIn f.2) (quote f.1 ++ ": " ++ spaced f.2).toList := by
    intro f hf
    rw [String.toList_append, String.toList_append]
    have hcolon : Woven [] ": ".toList := .of_dull (mem_of_all (by decide))
    exact (((Woven.quoted f.1).append hcolon).append (h f (hperm.mem_iff.1 hf))).congr (by simp)
  have hmiddle := Woven.intercalate hfield
  rw [textsIn, textsInFields_eq, spaced, spacedFields_eq, map_sort, List.map_map, String.toList_append,
    String.toList_append, String.toList_intercalate, List.map_map]
  have hopen : Woven [] "\x7b".toList := .of_dull (mem_of_all (by decide))
  have hclose : Woven [] "\x7d".toList := .of_dull (mem_of_all (by decide))
  refine ((hopen.append hmiddle).append hclose).congr ?_
  intro text
  simp only [List.nil_append, List.append_nil, List.mem_flatMap, hperm.mem_iff]

mutual

/-- **A printed value is woven of its escaped texts.** -/
theorem woven_spaced : ∀ j : Json, (∀ text ∈ floatsIn j, isFloatText text = true) →
    Woven (textsIn j) (spaced j).toList
  | .null, _ => .of_dull (mem_of_all (by decide))
  | .bool true, _ => .of_dull (mem_of_all (by decide))
  | .bool false, _ => .of_dull (mem_of_all (by decide))
  | .int n, _ =>
    .of_dull fun c hc => dull_of_isNumeric (List.all_eq_true.1 (all_isNumeric_toString n) c hc)
  | .float text, h => .of_dull (dull_floatText (h text List.mem_cons_self))
  | .str s, _ => .quoted s
  | .arr items, h => woven_arr (woven_items items h)
  | .obj fields, h => woven_obj (woven_fields fields h)

theorem woven_items : ∀ items : List Json, (∀ text ∈ floatsInItems items, isFloatText text = true) →
    ∀ j ∈ items, Woven (textsIn j) (spaced j).toList
  | [], _ => fun _ hj => absurd hj List.not_mem_nil
  | j :: js, h => by
    rw [floatsInItems, List.forall_mem_append] at h
    exact List.forall_mem_cons.2 ⟨woven_spaced j h.1, woven_items js h.2⟩

theorem woven_fields : ∀ fields : List (String × Json),
    (∀ text ∈ floatsInFields fields, isFloatText text = true) →
    ∀ f ∈ fields, Woven (textsIn f.2) (spaced f.2).toList
  | [], _ => fun _ hf => absurd hf List.not_mem_nil
  | (_, j) :: fs, h => by
    rw [floatsInFields, List.forall_mem_append] at h
    exact List.forall_mem_cons.2 ⟨woven_spaced j h.1, woven_fields fs h.2⟩

end

/-! ### The search -/

/-- The floats of the schemas are held as they are printed. -/
def FloatTexts (request : ModelRequest) : Prop :=
  ∀ text ∈ request.targetJsonSchema.toList.flatMap floatsInFields ++
    request.toolSchemas.flatMap floatsInFields, isFloatText text = true

/-- The value that is printed for the search. -/
def schemaDocument (request : ModelRequest) : Json :=
  .obj [("target_json_schema", (request.targetJsonSchema.map Json.obj).getD .null),
    ("tool_schemas", .arr (request.toolSchemas.map Json.obj))]

theorem textsIn_target (schema : Option (List (String × Json))) :
    textsIn ((schema.map Json.obj).getD .null) = schema.toList.flatMap textsInFields := by
  cases schema with
  | none => rfl
  | some fields => simp [textsIn]

theorem floatsIn_target (schema : Option (List (String × Json))) :
    floatsIn ((schema.map Json.obj).getD .null) = schema.toList.flatMap floatsInFields := by
  cases schema with
  | none => rfl
  | some fields => simp [floatsIn]

theorem floatsInItems_obj (schemas : List (List (String × Json))) :
    floatsInItems (schemas.map Json.obj) = schemas.flatMap floatsInFields := by
  induction schemas with
  | nil => rfl
  | cons schema schemas ih => rw [List.map_cons, floatsInItems, floatsIn, ih, List.flatMap_cons]

theorem mem_textsIn_schemaDocument (request : ModelRequest) (text : String) :
    text ∈ textsIn (schemaDocument request) ↔
      text ∈ ["target_json_schema", "tool_schemas"] ∨ text ∈ schemaTexts request := by
  rw [schemaDocument, textsIn, textsInFields, textsInFields, textsInFields, textsIn_target, textsIn,
    textsInItems_obj, schemaTexts]
  simp only [List.mem_cons, List.mem_append, List.not_mem_nil, or_false]
  tauto

theorem not_secret_name (isLetter : Char → Bool) {name : String}
    (h : name ∈ ["target_json_schema", "tool_schemas"]) : ¬Secret isLetter (escaped name) := by
  have hblocked : ∀ p ∈ secretPatterns, p.blocked "target_json_schema tool_schemas".toList = true := by
    decide +kernel
  have hnames : ∀ name ∈ ["target_json_schema", "tool_schemas"], ((escaped name).toList.all fun c =>
      "target_json_schema tool_schemas".toList.contains c) = true := by
    decide +kernel
  have hletters := mem_of_all (hnames name h)
  rintro ⟨p, hp, hmatch⟩
  rw [Pattern.search, searchFrom_of_blocked (hblocked p hp) hletters] at hmatch
  cases hmatch

theorem secret_document_iff (isLetter : Char → Bool) (hfloats : FloatTexts request) :
    Secret isLetter (spaced (schemaDocument request)) ↔
      ∃ text ∈ schemaTexts request, Secret isLetter (escaped text) := by
  have hprinted : ∀ text ∈ floatsIn (schemaDocument request), isFloatText text = true := by
    rw [schemaDocument, floatsIn, floatsInFields, floatsInFields, floatsInFields, floatsIn_target,
      floatsIn, floatsInItems_obj, List.append_nil]
    exact hfloats
  rw [(woven_spaced _ hprinted).secret_iff]
  simp only [mem_textsIn_schemaDocument]
  constructor
  · rintro ⟨text, hname | htext, hsecret⟩
    · exact absurd hsecret (not_secret_name isLetter hname)
    · exact ⟨text, htext, hsecret⟩
  · rintro ⟨text, htext, hsecret⟩
    exact ⟨text, .inr htext, hsecret⟩

/-- **What the search finds.** -/
theorem rejectSensitiveRequest_iff (isLetter : Char → Bool) (hfloats : FloatTexts request) :
    rejectSensitiveRequest isLetter request = true ↔ Scanned isLetter request := by
  rw [Scanned, ← secret_document_iff isLetter hfloats, rejectSensitiveRequest, List.any_eq_true]
  simp only [List.any_eq_true, searched, List.mem_append, List.mem_map, List.mem_singleton]
  constructor
  · rintro ⟨text, ⟨m, hm, rfl⟩ | rfl, hsecret⟩
    · exact .inl ⟨m, hm, hsecret⟩
    · exact .inr hsecret
  · rintro (⟨m, hm, hsecret⟩ | hsecret)
    · exact ⟨_, .inl ⟨m, hm, rfl⟩, hsecret⟩
    · exact ⟨_, .inr rfl, hsecret⟩

/-! ### Requests that are refused -/

section Refused

variable (lib : Libraries) (g : Gateway) (channel : ModelChannel) (streams : StreamChannel)
  (traceId : String) (request : ModelRequest)

/-- Both calls of the gateway are refused before a channel is called. -/
structure Refused : Prop where
  complete : (complete lib g channel traceId request).2 =
    .error (.failure { code := .policyRejected, retryable := false })
  complete_sent : (ModelGateway.complete lib g channel traceId request).1.sent = []
  stream : (stream g streams traceId request lib.isLetter).2 =
    .raised (.plain (.failure { code := .policyRejected, retryable := false }))
  stream_sent : (ModelGateway.stream g streams traceId request lib.isLetter).1.sent = []

/-- A request is refused exactly if the search finds something. -/
theorem refused_iff :
    Refused lib g channel streams traceId request ↔
      rejectSensitiveRequest lib.isLetter request = true := by
  constructor
  · intro hrefused
    by_contra hsafe
    -- One of the two calls is not the one for the request.
    cases hstream : request.stream with
    | true =>
      have hcomplete := hrefused.complete
      rw [ModelGateway.complete, if_neg hsafe, capability, hstream] at hcomplete
      cases hcomplete
    | false =>
      have hstreams := hrefused.stream
      rw [ModelGateway.stream, if_neg hsafe, hstream] at hstreams
      cases hstreams
  · intro hsecret
    have hcomplete : ModelGateway.complete lib g channel traceId request =
        ({ request := request }, .error (.failure { code := .policyRejected, retryable := false })) := by
      rw [ModelGateway.complete, if_pos hsecret]
    have hstreams : ModelGateway.stream g streams traceId request lib.isLetter =
        ({}, .raised (.plain (.failure { code := .policyRejected, retryable := false }))) := by
      rw [ModelGateway.stream, if_pos hsecret]
    exact ⟨by rw [hcomplete], by rw [hcomplete], by rw [hstreams], by rw [hstreams]⟩

/-- **When a secret that would be sent is found**: no text that is sent holds one, or a content or an
escaped text of a schema does. -/
theorem no_secret_leaves_iff (hfloats : FloatTexts request) :
    ((∃ text ∈ callerTexts request, Secret lib.isLetter text) →
        Refused lib g channel streams traceId request) ↔
      (∀ text ∈ callerTexts request, ¬Secret lib.isLetter text) ∨
        (∃ m ∈ request.messages, Secret lib.isLetter m.content) ∨
          ∃ text ∈ schemaTexts request, Secret lib.isLetter (escaped text) := by
  rw [refused_iff, rejectSensitiveRequest_iff lib.isLetter hfloats, imp_iff_not_or]
  simp only [not_exists, not_and]
  rfl

end Refused

/-! ### Secrets that are not found -/

/-- A request whose message carries a key in its name. -/
def namedRequest : ModelRequest :=
  { sampleRequest with
    messages := [{ role := .user, content := "return result", name := some "sk-abcdefghijklmnop" }]
    messages_ne := by decide }

/-- A request whose tool carries a key behind a line break. -/
def describedRequest : ModelRequest :=
  { sampleRequest with
    toolSchemas := [[("type", .str "function"), ("function", .obj [("name", .str "lookup"),
      ("description", .str "key:\nsk-abcdefghijklmnop"), ("parameters", .obj [])])]] }

theorem callerTexts_sent_described : ∃ body,
    payload describedRequest (shippedProfile .qwen "qwen" [] (by decide)) false = .ok body ∧
      "key:\nsk-abcdefghijklmnop" ∈ textsInFields body := by
  obtain ⟨body, h⟩ : ∃ body, payload describedRequest (shippedProfile .qwen "qwen" [] (by decide)) false =
    .ok body := ⟨_, rfl⟩
  exact ⟨body, h, callerTexts_sent (by decide) h (by decide +kernel)⟩

/-- An upstream that streams nothing. -/
def silent : StreamChannel := fun _ _ => ([], .raised (.plain .other))

theorem no_secret_leaves_iff_described :
    ((∃ text ∈ callerTexts describedRequest, Secret noLibraries.isLetter text) →
        Refused noLibraries shipped down silent "trace" describedRequest) ↔
      (∀ text ∈ callerTexts describedRequest, ¬Secret noLibraries.isLetter text) ∨
        (∃ m ∈ describedRequest.messages, Secret noLibraries.isLetter m.content) ∨
          ∃ text ∈ schemaTexts describedRequest, Secret noLibraries.isLetter (escaped text) :=
  no_secret_leaves_iff noLibraries shipped down silent "trace" describedRequest
    (by unfold FloatTexts; decide +kernel)

/-- A request that holds a key and that reaches a channel. -/
def Leaks (request : ModelRequest) : Prop :=
  (∃ text ∈ callerTexts request, Secret noLibraries.isLetter text) ∧
    ¬Refused noLibraries shipped down silent "trace" request ∧
    0 < (complete noLibraries shipped down "trace" request).1.sent.length

theorem leaks_of_mem (hrequest : request ∈ [namedRequest, describedRequest]) : Leaks request := by
  have hsecret : ∃ text ∈ callerTexts request, Secret noLibraries.isLetter text := by
    have hall : ∀ request ∈ [namedRequest, describedRequest], ∃ text ∈ callerTexts request,
        ∃ p ∈ secretPatterns, p.search noLibraries.isLetter text = true := by decide +kernel
    exact hall request hrequest
  have hsafe : ¬rejectSensitiveRequest noLibraries.isLetter request = true := by
    have hall : ∀ request ∈ [namedRequest, describedRequest],
        (∀ text ∈ request.targetJsonSchema.toList.flatMap floatsInFields ++
          request.toolSchemas.flatMap floatsInFields, isFloatText text = true) ∧
        ∀ text ∈ request.messages.map ModelMessage.content ++ (schemaTexts request).map escaped,
          ∀ p ∈ secretPatterns, ¬p.search noLibraries.isLetter text = true := by decide +kernel
    obtain ⟨hfloats, htexts⟩ := hall request hrequest
    rw [rejectSensitiveRequest_iff _ hfloats]
    rintro (⟨m, hm, p, hp, hmatch⟩ | ⟨text, htext, p, hp, hmatch⟩)
    · exact htexts _ (List.mem_append.2 (.inl (List.mem_map_of_mem hm))) p hp hmatch
    · exact htexts _ (List.mem_append.2 (.inr (List.mem_map_of_mem htext))) p hp hmatch
  have hserved : 0 < (served noLibraries shipped request).length := by
    have hall : ∀ request ∈ [namedRequest, describedRequest], capability request ≠ .stream ∧
        0 < (((candidates shipped.catalog request.modelFamily (capability request)).getD []).filter
          fun p => shipped.channels p.channel).length := by decide +kernel
    obtain ⟨hstream, hpositive⟩ := hall request hrequest
    rw [served, if_neg (not_or_intro hsafe hstream)]
    exact hpositive
  refine ⟨hsecret, ?_, ?_⟩
  · rwa [refused_iff]
  · rw [length_complete_down noLibraries shipped (by decide) request]
    exact Nat.mul_pos hserved (by decide)

/-- A key in the name of a message is sent, and so is one in a tool that stands behind a line break. -/
theorem not_no_secret_leaves : Leaks namedRequest ∧ Leaks describedRequest :=
  ⟨leaks_of_mem List.mem_cons_self, leaks_of_mem (List.mem_cons_of_mem _ List.mem_cons_self)⟩

end ModelGateway
