import OlmProvision.Model.Object

/-
Readiness: how to tell that a product custom resource has reached its ready state.

A readiness is that the object exists; that exactly the desired number of pods matching a
label selector run (decided against the pods, not the object); that `status.conditions` holds
an entry of a given type and status (`True` unless written); that the value at a JSON pointer
equals a given value; or that every one of a list of readinesses holds.

Its document form names the kind in camel case: the word `exists`, or a mapping of one key
(`podsRunning`, `condition`, `statusField`, `all`) to the kind's fields. `objectSatisfies`
evaluates everything that can be decided from the object alone; pod checks count as
satisfied there and are evaluated separately.
-/
namespace OlmProvision

/-- How to tell that a product resource is ready. -/
inductive Readiness where
  /-- The object exists. -/
  | objectExists
  /-- Exactly the desired number of pods matching `selector` run, none terminating. -/
  | podsRunning (selector : String)
  /-- `status.conditions` holds an entry with this type and status. -/
  | condition (conditionType status : String)
  /-- The value at `pointer` equals `value`. -/
  | statusField (pointer : String) (value : Json)
  /-- Every inner readiness holds. -/
  | all (inner : List Readiness)
deriving Inhabited

namespace Readiness

/-- The pod label selector this readiness depends on: the first one met, depth first. -/
def podSelector : Readiness → Option String
  | .podsRunning s => some s
  | .all inner => firstSelector inner
  | _ => none
where
  /-- The first selector among `rs`. -/
  firstSelector : List Readiness → Option String
    | [] => none
    | r :: rest =>
      match podSelector r with
      | some s => some s
      | none => firstSelector rest

/-- Whether a condition entry has the given type and status. -/
def conditionMatches (conditionType status : String) (entry : Json) : Bool :=
  (entry.get? "type").bind Json.asString? == some conditionType &&
  (entry.get? "status").bind Json.asString? == some status

/-- Whether the object's `data` satisfies every part decidable from the object alone. -/
def objectSatisfies (data : Json) : Readiness → Bool
  | .objectExists => true
  | .podsRunning _ => true
  | .condition t s =>
    match (data.pointer "/status/conditions").bind Json.asArray? with
    | some entries => entries.any (conditionMatches t s)
    | none => false
  | .statusField p v =>
    match data.pointer p with
    | some found => found == v
    | none => false
  | .all inner => allSatisfy data inner
where
  /-- Whether every readiness in `rs` is satisfied. -/
  allSatisfy (data : Json) : List Readiness → Bool
    | [] => true
    | r :: rest => objectSatisfies data r && allSatisfy data rest

/-- The document form. -/
def toJson : Readiness → Json
  | .objectExists => .str "exists"
  | .podsRunning s => Json.object [("podsRunning", Json.object [("selector", .str s)])]
  | .condition t s =>
    Json.object [("condition", Json.object [("type", .str t), ("status", .str s)])]
  | .statusField p v =>
    Json.object [("statusField", Json.object [("pointer", .str p), ("value", v)])]
  | .all inner => Json.object [("all", .arr (listJson inner))]
where
  /-- The document forms of a list. -/
  listJson : List Readiness → List Json
    | [] => []
    | r :: rest => toJson r :: listJson rest

/-- The kinds by name. -/
def kindNames : List String := ["exists", "podsRunning", "condition", "statusField", "all"]

/-- Whether a value given to a kind without fields is empty. -/
def isUnitValue : Input → Bool
  | .json .null => true
  | .yaml n => n.isUnit
  | _ => false

/-- Decode the kind named `name` with the value `value` (absent for the bare word). -/
def decodeKind (decodeInner : Input → Decoded Readiness) (name : String)
    (value : Option Input) : Decoded Readiness :=
  match value with
  | none =>
    if name == "exists" then .ok .objectExists
    else if kindNames.contains name then decodeFail "invalid type: expected a variant with fields"
    else decodeFail (unknownVariant name kindNames)
  | some v =>
    if name == "exists" then
      if isUnitValue v then .ok .objectExists else decodeFail "invalid type: expected unit"
    else if name == "podsRunning" then do
      let ms ← v.members ["selector"]
      return .podsRunning (← ms.required "selector" Input.string)
    else if name == "condition" then do
      let ms ← v.members ["type", "status"]
      return .condition (← ms.required "type" Input.string)
        (← ms.withDefault "status" "True" Input.string)
    else if name == "statusField" then do
      let ms ← v.members ["pointer", "value"]
      return .statusField (← ms.required "pointer" Input.string)
        (← ms.required "value" Input.toJson)
    else if name == "all" then do
      let items ← v.items
      let inner ← items.mapM decodeInner
      return .all inner
    else decodeFail (unknownVariant name kindNames)

/-- Decode the document form; `fuel` bounds the nesting of `all`. -/
def decode : Nat → Input → Decoded Readiness
  | 0, _ => decodeFail "nesting too deep"
  | fuel + 1, i =>
    match i with
    | .json (.str s) => decodeKind (decode fuel) s none
    | .json (.obj [(k, v)]) => decodeKind (decode fuel) k (some (.json v))
    | .json (.obj _) => decodeFail "invalid value: expected map with a single key"
    | .json _ => decodeFail "invalid type: expected string or map"
    | .yaml (.scalar s _ _) => decodeKind (decode fuel) s none
    | .yaml (.map [(k, v)]) =>
      match k with
      | .scalar name _ _ => decodeKind (decode fuel) name (some (.yaml v))
      | _ => decodeFail "invalid type: expected a variant name"
    | .yaml (.map _) => decodeFail "invalid length: expected a map of one entry"
    | .yaml (.seq _) => decodeFail "invalid type: expected an enum"
    | .yaml .recursive => decodeFail "recursion limit exceeded"

/-- Decode a document, bounded by its depth. -/
def read (i : Input) : Decoded Readiness := decode (i.depth + 1) i

end Readiness

end OlmProvision
