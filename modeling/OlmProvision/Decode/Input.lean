import OlmProvision.Decode.Content

/-
Decoding documents into typed values.

An `Input` is a document on its way into a typed value: a JSON value, or a YAML node. The two
differ where a YAML reader lets the target type decide. A field of string type takes the text
of any YAML scalar (`7`, `true` and `~` included), while a JSON field takes only a string. An
optional field is absent when it is JSON null or a plain YAML `~` or `null` (untagged or
tagged `!!null`; a quoted `'~'` is present). Numbers and booleans are
read as contents and must have the requested kind and range. Mapping keys that name fields are
the text of YAML scalars and the strings of JSON objects.

A record is decoded from a mapping: every key that names a field is decoded once (a second
occurrence is refused), other keys are skipped without being read, and a required field that
is missing is refused.

A value named by a word is one of a fixed table of names. A word that is none of them is
refused with the text ``unknown variant `x`, expected `A` or `B` ``, listing the allowed names
as such messages do (one name alone, two joined by "or", more after "one of").
-/
namespace OlmProvision

/-- A document to decode into a typed value. -/
inductive Input where
  | json (v : Json)
  | yaml (n : Yaml.Node)
deriving Inhabited

mutual
/-- The nesting depth of a JSON value. -/
def Json.depth : Json → Nat
  | .arr items => Json.itemsDepth items + 1
  | .obj fs => Json.fieldsDepth fs + 1
  | _ => 1

/-- The largest depth of JSON items. -/
def Json.itemsDepth : List Json → Nat
  | [] => 0
  | j :: rest => max (Json.depth j) (Json.itemsDepth rest)

/-- The largest depth of JSON member values. -/
def Json.fieldsDepth : List (String × Json) → Nat
  | [] => 0
  | (_, j) :: rest => max (Json.depth j) (Json.fieldsDepth rest)
end

mutual
/-- The nesting depth of a YAML node. -/
def Yaml.Node.depth : Yaml.Node → Nat
  | .seq items => Yaml.Node.itemsDepth items + 1
  | .map entries => Yaml.Node.entriesDepth entries + 1
  | _ => 1

/-- The largest depth of YAML items. -/
def Yaml.Node.itemsDepth : List Yaml.Node → Nat
  | [] => 0
  | n :: rest => max (Yaml.Node.depth n) (Yaml.Node.itemsDepth rest)

/-- The largest depth of YAML entry values. -/
def Yaml.Node.entriesDepth : List (Yaml.Node × Yaml.Node) → Nat
  | [] => 0
  | (_, n) :: rest => max (Yaml.Node.depth n) (Yaml.Node.entriesDepth rest)
end

namespace Input

/-- The nesting depth of a document, a bound for recursive decoders. -/
def depth : Input → Nat
  | .json v => v.depth
  | .yaml n => n.depth

/-- Whether an optional value is absent here: JSON null, or a YAML node that reads as absent
(see `Yaml.Node.isAbsent`). -/
def isNone : Input → Decoded Bool
  | .json v => .ok v.isNull
  | .yaml n => n.isAbsent

/-- The value read without a target type. -/
def content : Input → Decoded Content
  | .json v => .ok v.toContent
  | .yaml n => n.toContent

/-- The value as a JSON document, as a JSON value type reads it. -/
def toJson : Input → Decoded Json
  | .json v => .ok v
  | .yaml n => n.toJson

/-- A string: a JSON string, or the text of any YAML scalar. -/
def string : Input → Decoded String
  | .json (.str s) => .ok s
  | .json _ => decodeFail "invalid type: expected a string"
  | .yaml (.scalar t _ _) => .ok t
  | .yaml _ => decodeFail "invalid type: expected a string"

/-- A boolean. -/
def bool (i : Input) : Decoded Bool := do
  match ← i.content with
  | .bool b => return b
  | _ => decodeFail "invalid type: expected a boolean"

/-- An integer in `[lo, hi]`. -/
def intIn (lo hi : Int) (i : Input) : Decoded Int := do
  match ← i.content with
  | .num (.nat n) => if lo ≤ n ∧ (n : Int) ≤ hi then return n else decodeFail "invalid value"
  | .num (.neg n) => if lo ≤ n ∧ n ≤ hi then return n else decodeFail "invalid value"
  | _ => decodeFail "invalid type: expected an integer"

/-- A signed 32-bit integer. -/
def i32 (i : Input) : Decoded Int := intIn (-2147483648) 2147483647 i

/-- A signed 64-bit integer. -/
def i64 (i : Input) : Decoded Int := intIn (-9223372036854775808) 9223372036854775807 i

/-- An unsigned 16-bit integer. -/
def u16 (i : Input) : Decoded Nat := (intIn 0 65535 i).map Int.toNat

/-- An unsigned 64-bit integer. -/
def u64 (i : Input) : Decoded Nat := (intIn 0 18446744073709551615 i).map Int.toNat

/-- The items of a sequence. -/
def items : Input → Decoded (List Input)
  | .json (.arr xs) => .ok (xs.map .json)
  | .yaml (.seq ns) => .ok (ns.map .yaml)
  | _ => decodeFail "invalid type: expected a sequence"

/-- The entries of a mapping, keys and values still undecoded. -/
def entries : Input → Decoded (List (Input × Input))
  | .json (.obj fs) => .ok (fs.map (fun (k, v) => (.json (.str k), .json v)))
  | .yaml (.map es) => .ok (es.map (fun (k, v) => (.yaml k, .yaml v)))
  | _ => decodeFail "invalid type: expected a mapping"

/-- A list of values decoded by `dec`. -/
def list {α : Type} (dec : Input → Decoded α) (i : Input) : Decoded (List α) := do
  let xs ← i.items
  xs.mapM dec

/-- An optional value decoded by `dec`. -/
def option {α : Type} (dec : Input → Decoded α) (i : Input) : Decoded (Option α) := do
  if ← i.isNone then return none else (dec i).map some

/-- A mapping from strings to strings; a later key replaces an earlier one. -/
def stringMap (i : Input) : Decoded (List (String × String)) := do
  let es ← i.entries
  let pairs ← es.mapM (fun (k, v) => do
    let key ← k.string
    let value ← v.string
    return (key, value))
  return pairs.foldl (fun acc (k, v) => (acc.filter (·.1 != k)) ++ [(k, v)]) []

/-- The fields of a record with fields `known`, in written order; every other key is skipped
unread, and a field written twice is refused. -/
def fieldList (known : List String) (i : Input) : Decoded (List (String × Input)) := do
  let es ← i.entries
  let rec go : List (Input × Input) → List (String × Input) → Decoded (List (String × Input))
    | [], acc => .ok acc.reverse
    | (k, v) :: rest, acc => do
      let key ← k.string
      if known.contains key then
        if acc.any (·.1 == key) then decodeFail ("duplicate field " ++ key)
        else go rest ((key, v) :: acc)
      else go rest acc
  go es []

end Input

/-- The written fields of a record being decoded. -/
structure Members where
  fields : List (String × Input)

/-- The members of a record with fields `known`; see `Input.fieldList`. -/
def Input.members (known : List String) (i : Input) : Decoded Members :=
  (i.fieldList known).map Members.mk

namespace Members

/-- The member named `name`, if written. -/
def find? (ms : Members) (name : String) : Option Input :=
  (ms.fields.find? (fun p => p.1 == name)).map Prod.snd

/-- A required field. -/
def required {α : Type} (ms : Members) (name : String) (dec : Input → Decoded α) : Decoded α :=
  match find? ms name with
  | some i => dec i
  | none => decodeFail ("missing field " ++ name)

/-- An optional field: absent when missing or null. -/
def optional {α : Type} (ms : Members) (name : String) (dec : Input → Decoded α) :
    Decoded (Option α) :=
  match find? ms name with
  | some i => i.option dec
  | none => .ok none

/-- A field with a default used when it is missing. -/
def withDefault {α : Type} (ms : Members) (name : String) (default : α)
    (dec : Input → Decoded α) : Decoded α :=
  match find? ms name with
  | some i => dec i
  | none => .ok default

end Members

/-- The text refusing `word` when only `names` are allowed. -/
def unknownVariant (word : String) (names : List String) : String :=
  let quoted := names.map (fun n => "`" ++ n ++ "`")
  let expected := match quoted with
    | [] => "there are no variants"
    | [a] => "expected " ++ a
    | [a, b] => "expected " ++ a ++ " or " ++ b
    | qs => "expected one of " ++ ", ".intercalate qs
  if names.isEmpty then "unknown variant `" ++ word ++ "`, " ++ expected
  else "unknown variant `" ++ word ++ "`, " ++ expected

/-- The value named `word` among `table`, or the refusal text. -/
def readVariant {α : Type} (table : List (String × α)) (word : String) : Except String α :=
  match table.find? (fun p => p.1 == word) with
  | some (_, v) => .ok v
  | none => .error (unknownVariant word (table.map Prod.fst))

/-- Decode a value named by a string among `table`. -/
def decodeVariant {α : Type} (table : List (String × α)) (i : Input) : Decoded α := do
  let word ← i.string
  match readVariant table word with
  | .ok v => return v
  | .error e => decodeFail e

end OlmProvision
