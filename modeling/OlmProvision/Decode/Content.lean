import OlmProvision.Json.Value
import OlmProvision.Numeric.Decimal
import OlmProvision.Text.Integer
import OlmProvision.Yaml.Node

/-
Self-describing reads of documents.

A `Content` is what a document says about itself when it is read without a target type: null,
a boolean, an integer that fits 64 bits, a floating-point number, a string, a sequence or a
mapping whose keys are themselves contents.

A JSON value reads as itself. A YAML scalar with a core tag is what the tag says, whatever
its style: `!!bool` takes `true` and `false`, `!!int` a signed 64-bit decimal, `!!float` any
decimal text (overflowing to an infinity) and the words `inf`, `infinity` and `nan`, `!!null`
takes `~` and `null`, and other texts are refused. Any other tag makes a string, and so does
an untagged quoted or block scalar. An untagged plain scalar is, in this order: null for `~`
and `null`; a boolean for `true` and `false`; an integer for `0x`, `0o` and `0b` forms (after
an optional `+` or `-`) that fit 64 bits; a string when it is a run of digits with a leading
zero (after an optional sign); an unsigned, then a signed 64-bit integer; refused when it is
an integer of 128 bits, which no reader here accepts; an infinity or NaN for `.inf`, `-.inf`
and `.nan` (in three capitalisations, any number of `+` allowed before `.inf`); a finite float
when the text reads as one (with at most one sign); and a string otherwise.

At most 128 collections may be open at once in a read without a target type; an alias inside
the node it names never ends, and is refused like a document nested too deeply.

A content becomes a JSON value when every mapping key in it is a string; non-finite floats
become null. The direct JSON read of a YAML node takes every mapping key as its text instead.
-/
namespace OlmProvision

/-- Why a document does not decode into the requested shape. The wording is for diagnosis
only; callers report that decoding failed, not how. -/
structure DecodeError where
  message : String
deriving Repr, Inhabited

/-- A decoding result. -/
abbrev Decoded (α : Type) := Except DecodeError α

/-- Fail decoding with `message`. -/
def decodeFail {α : Type} (message : String) : Decoded α := .error ⟨message⟩

/-- A document read without a target type. -/
inductive Content where
  | unit
  | bool (b : Bool)
  | num (n : Number)
  | str (s : String)
  | seq (items : List Content)
  | map (entries : List (Content × Content))
deriving Repr, Inhabited

namespace Yaml

open Text in
/-- Read `rest` as an integer in `radix` that fits 64 bits, negated when `negative`. -/
def radixInteger (negative : Bool) (radix : Nat) (rest : String) : Option Content :=
  if negative then
    match readSignedRadix 64 radix ("-" ++ rest) with
    | .ok n => some (.num (Number.ofInt n))
    | .error _ => none
  else
    match readUnsignedRadix 64 radix rest with
    | .ok n => some (.num (.nat n))
    | .error _ => none

/-- The integer of a `0x`, `0o` or `0b` form (`+` allowed before the unsigned ones), if it is
one that fits 64 bits. -/
def radixForm (v : String) : Option Content :=
  let forms : List (String × Bool × Nat) :=
    [("0x", false, 16), ("+0x", false, 16), ("-0x", true, 16),
     ("0o", false, 8), ("+0o", false, 8), ("-0o", true, 8),
     ("0b", false, 2), ("+0b", false, 2), ("-0b", true, 2)]
  forms.findSome? fun (pre, negative, radix) =>
    if v.startsWith pre then radixInteger negative radix (v.drop pre.length).toString else none

/-- Whether `s` is a run of decimal digits with a leading zero, after an optional sign: such
a text is a string, not a number. -/
def leadingZeroDigits (s : String) : Bool :=
  let cs := match s.toList with
    | '-' :: rest => rest
    | '+' :: rest => rest
    | cs => cs
  cs.length > 1 && cs.head? == some '0' && (cs.drop 1).all Char.isDigit

/-- The float of a plain scalar: `.inf` in three capitalisations after any number of `+`,
`-.inf` and `.nan` likewise, or a finite number read as decimal text. -/
def plainFloat (v : String) : Option Binary64 :=
  let unsigned := String.ofList (v.toList.dropWhile (· == '+'))
  if unsigned == ".inf" || unsigned == ".Inf" || unsigned == ".INF" then some (.infinite false)
  else if v == "-.inf" || v == "-.Inf" || v == "-.INF" then some (.infinite true)
  else if v == ".nan" || v == ".NaN" || v == ".NAN" then some (.nan false)
  else match Binary64.readDecimal? v with
    | some x => if x.isFinite then some x else none
    | none => none

open Text in
/-- The content of a plain scalar without a tag, by the rules in the module comment. -/
def resolvePlain (v : String) : Decoded Content :=
  if v == "~" || v == "null" then .ok .unit
  else if v == "true" then .ok (.bool true)
  else if v == "false" then .ok (.bool false)
  else match radixForm v with
    | some c => .ok c
    | none =>
      if leadingZeroDigits v then .ok (.str v)
      else match readUnsigned 64 v with
      | .ok n => .ok (.num (.nat n))
      | .error _ =>
        match readSigned 64 v with
        | .ok n => .ok (.num (Number.ofInt n))
        | .error _ =>
          if (readUnsigned 128 v).toBool || (readSigned 128 v).toBool then
            decodeFail "128-bit integers are not supported"
          else match plainFloat v with
            | some x => .ok (.num (.float x))
            | none => .ok (.str v)

open Text in
/-- The content of a scalar: a core tag `!!bool`, `!!int`, `!!float` or `!!null` says what the
text must be, any other tag makes a string, and an untagged scalar resolves by itself when
plain and is a string otherwise. -/
def resolveScalar (text : String) (style : ScalarStyle) (tag : Option Tag) : Decoded Content :=
  match tag with
  | some t =>
    if t.isCore "bool" then
      if text == "true" then .ok (.bool true)
      else if text == "false" then .ok (.bool false)
      else decodeFail "invalid value: expected a boolean"
    else if t.isCore "int" then
      match readSigned 64 text with
      | .ok n => .ok (.num (Number.ofInt n))
      | .error _ => decodeFail "invalid value: expected an integer"
    else if t.isCore "float" then
      match Binary64.readDecimal? text with
      | some x => .ok (.num (.float x))
      | none => decodeFail "invalid value: expected a float"
    else if t.isCore "null" then
      if text == "~" || text == "null" then .ok .unit else decodeFail "invalid value: expected null"
    else .ok (.str text)
  | none => if style == .plain then resolvePlain text else .ok (.str text)

/-- How many collections may be open at once while a document is read without a target type. -/
def maxNesting : Nat := 128

/-- The refusal of a document nested deeper than `maxNesting`. -/
def tooDeep {α : Type} : Decoded α := decodeFail "recursion limit exceeded"

mutual
/-- The content of a node, with `depth` more collections allowed inside it. -/
def Node.contentAt : Nat → Node → Decoded Content
  | _, .scalar text style tag => resolveScalar text style tag
  | 0, _ => tooDeep
  | depth + 1, .seq items => (Node.itemsContentAt depth items).map .seq
  | depth + 1, .map entries => (Node.entriesContentAt depth entries).map .map
  | _ + 1, .recursive => tooDeep

/-- The contents of sequence items. -/
def Node.itemsContentAt (depth : Nat) : List Node → Decoded (List Content)
  | [] => .ok []
  | n :: rest => do
    let c ← Node.contentAt depth n
    let cs ← Node.itemsContentAt depth rest
    return c :: cs

/-- The contents of mapping entries. -/
def Node.entriesContentAt (depth : Nat) : List (Node × Node) → Decoded (List (Content × Content))
  | [] => .ok []
  | (k, v) :: rest => do
    let kc ← Node.contentAt depth k
    let vc ← Node.contentAt depth v
    let cs ← Node.entriesContentAt depth rest
    return (kc, vc) :: cs
end

/-- The content of a node. -/
def Node.toContent (n : Node) : Decoded Content := n.contentAt maxNesting

/-- A mapping key read as a string: the text of a scalar. -/
def Node.keyText : Node → Decoded String
  | .scalar t _ _ => .ok t
  | _ => decodeFail "invalid type: expected a string key"

mutual
/-- The JSON value of a node read directly as JSON, with `depth` more collections allowed:
scalars resolve as contents, non-finite floats become null, and mapping keys are taken as their
text (a key that is a collection is refused). Later duplicate keys win. -/
def Node.jsonAt : Nat → Node → Decoded Json
  | _, .scalar text style tag => do
    match ← resolveScalar text style tag with
    | .bool b => return .bool b
    | .num (.float x) => return if x.isFinite then .num (.float x) else .null
    | .num n => return .num n
    | .str s => return .str s
    | _ => return .null
  | 0, _ => tooDeep
  | depth + 1, .seq items => (Node.itemsJsonAt depth items).map .arr
  | depth + 1, .map entries => (Node.entriesJsonAt depth entries).map .obj
  | _ + 1, .recursive => tooDeep

/-- The JSON values of sequence items. -/
def Node.itemsJsonAt (depth : Nat) : List Node → Decoded (List Json)
  | [] => .ok []
  | n :: rest => do
    let j ← Node.jsonAt depth n
    let js ← Node.itemsJsonAt depth rest
    return j :: js

/-- The members of a mapping read directly as JSON. -/
def Node.entriesJsonAt (depth : Nat) : List (Node × Node) → Decoded Fields
  | [] => .ok []
  | (k, v) :: rest => do
    let key ← k.keyText
    let j ← Node.jsonAt depth v
    let fs ← Node.entriesJsonAt depth rest
    -- later entries win: insert the earlier one only when no later one has the key
    return match Fields.get? fs key with
      | some _ => fs
      | none => Fields.insert fs key j
end

/-- The JSON value of a node read directly as JSON. -/
def Node.toJson (n : Node) : Decoded Json := n.jsonAt maxNesting

/-- Whether a node reads as an absent optional value: a plain `~` or `null`, untagged or
tagged `!!null`. Any other scalar tagged `!!null` is refused, and every other node is present. -/
def Node.isAbsent : Node → Decoded Bool
  | .scalar text .plain tag =>
    match tag with
    | none => .ok (text == "~" || text == "null")
    | some t =>
      if t.isCore "null" then
        if text == "~" || text == "null" then .ok true else decodeFail "invalid value: expected null"
      else .ok false
  | _ => .ok false

/-- Whether a node reads as the unit value: a plain `~` or `null`, untagged or tagged
`!!null`. -/
def Node.isUnit : Node → Bool
  | .scalar text .plain tag =>
    (text == "~" || text == "null") && (tag.isNone || tag.any (·.isCore "null"))
  | _ => false

end Yaml

namespace Content

mutual
/-- The JSON value of a content; mapping keys must be strings. Later duplicate keys win. -/
def toJson : Content → Decoded Json
  | .unit => .ok .null
  | .bool b => .ok (.bool b)
  | .num (.float x) => .ok (if x.isFinite then .num (.float x) else .null)
  | .num n => .ok (.num n)
  | .str s => .ok (.str s)
  | .seq items => (itemsToJson items).map .arr
  | .map entries => (entriesToJson entries).map .obj

/-- The JSON values of items. -/
def itemsToJson : List Content → Decoded (List Json)
  | [] => .ok []
  | c :: rest => do
    let j ← toJson c
    let js ← itemsToJson rest
    return j :: js

/-- The members of a mapping with string keys. -/
def entriesToJson : List (Content × Content) → Decoded Fields
  | [] => .ok []
  | (k, v) :: rest => do
    let key ← match k with
      | .str s => pure s
      | _ => decodeFail "invalid type: expected a string key"
    let j ← toJson v
    let fs ← entriesToJson rest
    return match Fields.get? fs key with
      | some _ => fs
      | none => Fields.insert fs key j
end

end Content

namespace Json

mutual
/-- The content of a JSON value: the value itself. -/
def toContent : Json → Content
  | .null => .unit
  | .bool b => .bool b
  | .num n => .num n
  | .str s => .str s
  | .arr items => .seq (itemsToContent items)
  | .obj fs => .map (fieldsToContent fs)

/-- The contents of JSON items. -/
def itemsToContent : List Json → List Content
  | [] => []
  | j :: rest => toContent j :: itemsToContent rest

/-- The contents of JSON members. -/
def fieldsToContent : List (String × Json) → List (Content × Content)
  | [] => []
  | (k, v) :: rest => (.str k, toContent v) :: fieldsToContent rest
end

end Json

end OlmProvision
