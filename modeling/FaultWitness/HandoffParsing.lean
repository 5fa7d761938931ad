/-
**Reading a handoff.**

`parse_handoff` of `faultwitness_dev/bootstrap.py` reads the secrets of a server out of a text that a person
has written.  Each line is searched for the markers of a field, one field after the other, and what stands
behind a separator is the value.  Texts are lists of characters, and `casefold` is what it does to one
character.

Main definitions:

* `Bootstrap.Field`, `Bootstrap.classify` — the fields, and the field of a line;
* `Bootstrap.parseHandoff` — reading a handoff.

Main results:

* `Bootstrap.validateBundle_eq_ok` — what an accepted bundle is;
* `Bootstrap.validateBundle_of_parseHandoff` — **a handoff that is read holds an accepted bundle**.
-/

import FaultWitness.MachineTrust
import Mathlib.Data.List.DropRight

set_option autoImplicit false

namespace Bootstrap

open Python

/-! ### Lines -/

abbrev Text := List Char

/-- The characters that end a line. -/
def isLineBreak (c : Char) : Bool := c.toNat ∈ [10, 11, 12, 13, 28, 29, 30, 0x85, 0x2028, 0x2029]

/-- The lines of a text, of which the first one has begun. -/
def splitFrom (line : Text) : Text → List Text
  | [] => if line = [] then [] else [line.reverse]
  | '\r' :: '\n' :: cs => line.reverse :: splitFrom [] cs
  | c :: cs => if isLineBreak c then line.reverse :: splitFrom [] cs else splitFrom (c :: line) cs

/-- The method `splitlines`. -/
def splitlines (text : String) : List Text := splitFrom [] text.toList

/-- The method `strip`. -/
def strip (line : Text) : Text := (line.dropWhile (isBlank false)).rdropWhile (isBlank false)

/-- The operator `in` on a marker and a line. -/
def has (marker : String) (line : Text) : Bool := marker.toList <:+: line

def SEPARATORS : Text := ['：', ':', '=']

/-- `_value_after_separator` for the separators that are left. -/
def valueAfter (line : Text) : Text → Text
  | [] => []
  | s :: separators =>
    if s ∈ line then strip (line.dropWhile fun c => c ≠ s).tail else valueAfter line separators

def valueAfterSeparator (line : Text) : Text := valueAfter line SEPARATORS

/-- The first of some lines that is not empty. -/
def nextNonempty : List Text → Text
  | [] => []
  | line :: later => if strip line = [] then nextNonempty later else strip line

/-! ### Fields -/

inductive Field
  | serverHost
  | serverPort
  | serverUsername
  | serverPassword
  | bailianApiKey
  | langsmithApiKey
deriving DecidableEq

def Field.name : Field → String
  | .serverHost => "server.host"
  | .serverPort => "server.port"
  | .serverUsername => "server.username"
  | .serverPassword => "server.password"
  | .bailianApiKey => "bailian.api_key"
  | .langsmithApiKey => "langsmith.api_key"

/-- The fields in the order in which a line is tested for them. -/
def FIELDS : List Field :=
  [.serverHost, .serverPort, .serverUsername, .serverPassword, .bailianApiKey, .langsmithApiKey]

variable (casefold : Char → Text)

/-- The method `casefold`. -/
def lowered (line : Text) : Text := line.flatMap casefold

/-- The test of a field. -/
def Field.marks (field : Field) (line : Text) : Bool :=
  match field with
  | .serverHost => has "服务器" line && has "ip" (lowered casefold line)
  | .serverPort => has "端口" line
  | .serverUsername => has "用户" line || has "账号" line
  | .serverPassword => has "密码" line
  | .bailianApiKey => has "百炼" line && (has "key" (lowered casefold line) || has "密钥" line)
  | .langsmithApiKey => has "langsmith" (lowered casefold line)

/-- The first field whose test a line passes. -/
def classify (line : Text) : Option Field := FIELDS.find? fun field => field.marks casefold line

/-- What stands behind `key`, in any case, or `密钥` at the front of a line. -/
def afterKey : Text → Option Text
  | '密' :: '钥' :: rest => some rest
  | k :: e :: y :: rest =>
    if k ∈ ['k', 'K', '\u212a'] ∧ e ∈ ['e', 'E'] ∧ y ∈ ['y', 'Y'] then some rest else none
  | _ => none

/-- What the pattern `(?i)(?:key|密钥)\s+(.+)$` finds in a line without blanks at its ends. -/
def keyFallback : Text → Text
  | [] => []
  | c :: cs =>
    match afterKey (c :: cs) with
    | some (b :: rest) => if isBlank false b then strip rest else keyFallback cs
    | _ => keyFallback cs

/-- The value of a line, with the next line that is not empty. -/
def fieldValue (field : Field) (line next : Text) : Text :=
  let value := valueAfterSeparator line
  match field with
  | .bailianApiKey => if value = [] then keyFallback line else value
  | .langsmithApiKey => if value = [] then next else value
  | _ => value

/-! ### Reading -/

abbrev Values := Field → Option Text

def readLines : List Text → Values → Values
  | [], values => values
  | raw :: later, values =>
    let line := strip raw
    if line = [] then readLines later values
    else
      match classify casefold line with
      | none => readLines later values
      | some field =>
        readLines later
          (Function.update values field (some (fieldValue field line (nextNonempty later))))

def Values.text (values : Values) (field : Field) : String := String.ofList ((values field).getD [])

def Values.bundle (values : Values) (port : ℤ) : SecretBundle where
  serverHost := values.text .serverHost
  serverPort := port
  serverUsername := values.text .serverUsername
  serverPassword := values.text .serverPassword
  bailianApiKey := values.text .bailianApiKey
  langsmithApiKey := values.text .langsmithApiKey

/-- Reading a handoff; what is raised is a `GovernanceError`. -/
def parseHandoff (tools : Tools) (text : String) : Except String SecretBundle :=
  let values := readLines casefold (splitlines text) fun _ => none
  let missing := FIELDS.filter fun field => values.text field = ""
  if missing ≠ [] then
    .error ("handoff is missing required secret fields: " ++ ", ".intercalate (missing.map Field.name))
  else
    match intParse (values.text .serverPort) with
    | none => .error "server.port must be an integer"
    | some port => do
      let bundle := values.bundle port
      validateBundle tools bundle
      return bundle

/-! ### Accepted bundles -/

theorem validateBundle_eq_ok {tools : Tools} {bundle : SecretBundle} :
    validateBundle tools bundle = .ok () ↔
      (tools.isIpAddress bundle.serverHost || isSafeHostname bundle.serverHost) = true ∧
      (1 ≤ bundle.serverPort ∧ bundle.serverPort ≤ 65535) ∧
      isSafeUsername bundle.serverUsername = true ∧
      ¬(bundle.serverPassword = "" ∨
        bundle.serverPassword.toList.any (fun c => c = '\r' || c = '\n' || c.toNat = 0) = true) ∧
      isApiKey bundle.bailianApiKey = true ∧ isApiKey bundle.langsmithApiKey = true := by
  unfold validateBundle
  split_ifs with hhost hport hname hpassword hbailian hlangsmith <;> simp_all

theorem validateBundle_of_parseHandoff {casefold : Char → Text} {tools : Tools} {text : String}
    {bundle : SecretBundle} (h : parseHandoff casefold tools text = .ok bundle) :
    validateBundle tools bundle = .ok () := by
  unfold parseHandoff at h
  dsimp only at h
  split at h
  · cases h
  · split at h
    · cases h
    · obtain ⟨⟨⟩, hvalid, h⟩ := bind_eq_ok.1 h
      cases h
      exact hvalid

end Bootstrap
