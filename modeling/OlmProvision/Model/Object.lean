import OlmProvision.Decode.Input
import OlmProvision.Json.Pointer
import OlmProvision.Model.Time

/-
Cluster objects of any kind, and the API resources they belong to.

An object has optional type information (`apiVersion` and `kind`), metadata, and everything
else as a JSON object (`data`). It is decoded from a mapping in which `metadata` may occur
once and is read as metadata (empty metadata when it is missing), while every other member is
kept as a content. The type
information is then taken from the kept members `apiVersion` and `kind`, in written order:
each is removed as it is met, and if one is not a string, or one is missing, the object has
no type information. The members left over form `data`; their nested mapping keys must be
strings. An object's document form has its type information, its metadata and then the
members of `data`, later ones replacing earlier ones.

Metadata keeps the fields of object metadata. Times are RFC 3339 texts and are written back
in whole seconds with a `Z`. Owner references and managed fields are kept as documents.

The plural of a kind is its ASCII-lowercased name with `es` after s, x, z, ch and sh, with
`ies` for a `y` after a consonant, and with `s` otherwise; `endpoints` and `endpointslices`
stay as they are, and `nodemetrics` and `podmetrics` become `nodes` and `pods`.
-/
namespace OlmProvision

/-- The metadata of a cluster object. -/
structure ObjectMeta where
  annotations : Option (List (String × String)) := none
  creationTimestamp : Option Timestamp := none
  deletionGracePeriodSeconds : Option Int := none
  deletionTimestamp : Option Timestamp := none
  finalizers : Option (List String) := none
  generateName : Option String := none
  generation : Option Int := none
  labels : Option (List (String × String)) := none
  managedFields : Option Json := none
  name : Option String := none
  namespaceName : Option String := none
  ownerReferences : Option Json := none
  resourceVersion : Option String := none
  selfLink : Option String := none
  uid : Option String := none
deriving Inhabited

namespace ObjectMeta

/-- A time written as an RFC 3339 text. -/
def decodeTime (i : Input) : Decoded Timestamp := do
  let s ← i.string
  match Timestamp.parseRfc3339 s with
  | some t => return t
  | none => decodeFail ("invalid time " ++ s)

/-- The names of the metadata fields. -/
def fieldNames : List String :=
  ["annotations", "creationTimestamp", "deletionGracePeriodSeconds", "deletionTimestamp",
   "finalizers", "generateName", "generation", "labels", "managedFields", "name", "namespace",
   "ownerReferences", "resourceVersion", "selfLink", "uid"]

/-- The last written member named `name`: metadata takes a repeated field's last value. -/
def lastOf (es : List (String × Input)) (name : String) : Option Input :=
  (es.reverse.find? (fun p => p.1 == name)).map Prod.snd

/-- An optional metadata field. -/
def opt {α : Type} (es : List (String × Input)) (name : String) (dec : Input → Decoded α) :
    Decoded (Option α) :=
  match lastOf es name with
  | some i => i.option dec
  | none => .ok none

/-- Decode metadata; unknown members are skipped, and a repeated member takes its last value. -/
def decode (i : Input) : Decoded ObjectMeta := do
  let raw ← i.entries
  let es ← raw.mapM (fun (k, v) => do
    let key ← k.string
    return (key, v))
  let es := es.filter (fun p => fieldNames.contains p.1)
  let anyList (j : Input) : Decoded Json := do
    let v ← j.toJson
    match v with
    | .arr _ => return v
    | _ => decodeFail "invalid type: expected a sequence"
  return {
    annotations := ← opt es "annotations" Input.stringMap
    creationTimestamp := ← opt es "creationTimestamp" decodeTime
    deletionGracePeriodSeconds := ← opt es "deletionGracePeriodSeconds" Input.i64
    deletionTimestamp := ← opt es "deletionTimestamp" decodeTime
    finalizers := ← opt es "finalizers" (Input.list Input.string)
    generateName := ← opt es "generateName" Input.string
    generation := ← opt es "generation" Input.i64
    labels := ← opt es "labels" Input.stringMap
    managedFields := ← opt es "managedFields" anyList
    name := ← opt es "name" Input.string
    namespaceName := ← opt es "namespace" Input.string
    ownerReferences := ← opt es "ownerReferences" anyList
    resourceVersion := ← opt es "resourceVersion" Input.string
    selfLink := ← opt es "selfLink" Input.string
    uid := ← opt es "uid" Input.string }

/-- The text of a time to the second, in UTC marked `Z`; a leap second shows as second 60. -/
def timeText (t : Timestamp) : String := t.secondsText ++ "Z"

/-- A string table as a document. -/
def tableJson (pairs : List (String × String)) : Json :=
  Json.object (pairs.map (fun (k, v) => (k, Json.str v)))

/-- The document form: the fields that are set. -/
def toJson (m : ObjectMeta) : Json :=
  let entries : List (Option (String × Json)) := [
    m.annotations.map (fun a => ("annotations", tableJson a)),
    m.creationTimestamp.map (fun t => ("creationTimestamp", .str (timeText t))),
    m.deletionGracePeriodSeconds.map (fun n => ("deletionGracePeriodSeconds", Json.int n)),
    m.deletionTimestamp.map (fun t => ("deletionTimestamp", .str (timeText t))),
    m.finalizers.map (fun fs => ("finalizers", Json.strings fs)),
    m.generateName.map (fun s => ("generateName", .str s)),
    m.generation.map (fun n => ("generation", Json.int n)),
    m.labels.map (fun l => ("labels", tableJson l)),
    m.managedFields.map (fun j => ("managedFields", j)),
    m.name.map (fun s => ("name", .str s)),
    m.namespaceName.map (fun s => ("namespace", .str s)),
    m.ownerReferences.map (fun j => ("ownerReferences", j)),
    m.resourceVersion.map (fun s => ("resourceVersion", .str s)),
    m.selfLink.map (fun s => ("selfLink", .str s)),
    m.uid.map (fun s => ("uid", .str s))]
  Json.object (entries.filterMap id)

/-- The value of label `key`. -/
def label? (m : ObjectMeta) (key : String) : Option String :=
  m.labels.bind (fun ls => (ls.find? (fun p => p.1 == key)).map Prod.snd)

end ObjectMeta

/-- The API version and kind of an object. -/
structure TypeMeta where
  apiVersion : String
  kind : String
deriving DecidableEq, Repr, Inhabited

/-- A cluster object of any kind. -/
structure DynamicObject where
  types : Option TypeMeta
  metadata : ObjectMeta
  data : Json
deriving Inhabited

namespace DynamicObject

/-- Take the type information out of the kept members, in written order. Returns the type
information (if complete and well formed) and the members left. -/
def takeTypes (kept : List (String × Content)) : Option TypeMeta × List (String × Content) :=
  let rec go : List (String × Content) → Option String → Option String → Bool →
      List (String × Content) → Option TypeMeta × List (String × Content)
    | [], av, kd, ok, acc =>
      match ok, av, kd with
      | true, some a, some k => (some ⟨a, k⟩, acc.reverse)
      | _, _, _ => (none, acc.reverse)
    | (key, c) :: rest, av, kd, ok, acc =>
      if !ok then go rest av kd ok ((key, c) :: acc)
      else if key == "apiVersion" || key == "kind" then
        let seen := if key == "apiVersion" then av.isSome else kd.isSome
        match c with
        | .str s =>
          if seen then go rest av kd false acc
          else if key == "apiVersion" then go rest (some s) kd ok acc
          else go rest av (some s) ok acc
        | _ => go rest av kd false acc
      else go rest av kd ok ((key, c) :: acc)
  go kept none none true []

/-- Decode an object by the rules in the module comment. -/
def decode (i : Input) : Decoded DynamicObject := do
  let es ← i.entries
  let rec scan : List (Input × Input) → Option ObjectMeta → List (String × Content) →
      Decoded (Option ObjectMeta × List (String × Content))
    | [], found, acc => .ok (found, acc.reverse)
    | (k, v) :: rest, found, acc => do
      let key ← k.string
      if key == "metadata" then
        match found with
        | some _ => decodeFail "duplicate field metadata"
        | none =>
          let m ← ObjectMeta.decode v
          scan rest (some m) acc
      else
        let c ← v.content
        scan rest found ((key, c) :: acc)
  let (found, kept) ← scan es none []
  let (types, rest) := takeTypes kept
  let data ← (Content.map (rest.map (fun (k, c) => (Content.str k, c)))).toJson
  return { types := types, metadata := found.getD {}, data := data }

/-- The document form. -/
def toJson (o : DynamicObject) : Json :=
  let head : List (String × Json) :=
    (match o.types with
     | some t => [("apiVersion", Json.str t.apiVersion), ("kind", Json.str t.kind)]
     | none => []) ++ [("metadata", o.metadata.toJson)]
  let base := Fields.ofList head
  match o.data with
  | .obj fs => .obj (fs.foldl (fun acc (k, v) => Fields.insert acc k v) base)
  | _ => .obj base

/-- The object's name, or the empty string. -/
def name (o : DynamicObject) : String := o.metadata.name.getD ""

/-- The object's namespace, if set. -/
def namespaceName? (o : DynamicObject) : Option String := o.metadata.namespaceName

/-- The object's kind, or the empty string. -/
def kind (o : DynamicObject) : String := (o.types.map TypeMeta.kind).getD ""

end DynamicObject

/-- The plural resource name of a lowercased kind. -/
def pluralOf (word : String) : String :=
  if word == "endpoints" || word == "endpointslices" then word
  else if word == "nodemetrics" then "nodes"
  else if word == "podmetrics" then "pods"
  else if word.endsWith "s" || word.endsWith "x" || word.endsWith "z" || word.endsWith "ch" ||
      word.endsWith "sh" then word ++ "es"
  else if word.endsWith "y" then
    let bytes := word.utf8ByteSize
    let before := if bytes < 2 then none else word.toList[bytes - 2]?
    match before with
    | some c =>
      if c == 'a' || c == 'e' || c == 'i' || c == 'o' || c == 'u' then word ++ "s"
      else String.ofList word.toList.dropLast ++ "ies"
    | none => word ++ "s"
  else word ++ "s"

/-- An API resource: group, version, kind and plural name. -/
structure ApiResource where
  group : String
  version : String
  kind : String
  plural : String
deriving DecidableEq, Repr, Inhabited

namespace ApiResource

/-- The API version: the version alone for the core group, `group/version` otherwise. -/
def apiVersion (r : ApiResource) : String :=
  if r.group.isEmpty then r.version else r.group ++ "/" ++ r.version

/-- The resource of a group, version and kind; the plural is derived from the kind. -/
def ofKind (group version kind : String) : ApiResource :=
  { group := group, version := version, kind := kind,
    plural := pluralOf (String.ofList (kind.toList.map Char.toLower)) }

/-- The resource of an API version (`group/version`, or a core version) and a kind. -/
def ofApiVersion (apiVersion kind : String) : ApiResource :=
  match apiVersion.splitOn "/" with
  | [v] => ofKind "" v kind
  | g :: rest => ofKind g ("/".intercalate rest) kind
  | [] => ofKind "" apiVersion kind

end ApiResource

end OlmProvision
