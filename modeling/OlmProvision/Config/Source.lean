import OlmProvision.Decode.Content
import OlmProvision.Model.Error
import OlmProvision.Model.Descriptor
import OlmProvision.Text.Blank
import OlmProvision.Text.Duration

/-
Configuration sources addressed by dotted keys such as `kafka.operators.catalog_source`.

A source is a table of keys and values (filled in code, or flattened from a YAML document), a
set of environment variables under a prefix, or a stack of sources searched first to last.
Every source answers `lookup` with the raw value of a key. `get` trims that value and treats a
blank one as missing, so that an empty variable does not hide a value further down a stack;
a stack answers `lookup` with the first layer's `get` that has a value.

A YAML document is flattened into dotted keys: the keys of nested mappings are joined with
dots, and strings, numbers and booleans become values, so `kafka: {operators: {channel:
stable}}` gives `kafka.operators.channel = stable`. Keys that are strings, numbers or booleans
take their text; other keys, nulls and sequences are skipped. Within one mapping a repeated
key (`0.0` and `-0.0` are one key; `1` and `1.0` are two) keeps its first form, takes its last
value and counts from its last position. A later key replaces an earlier one that flattens to
the same dotted key.
-/
namespace OlmProvision

/-- A source of configuration values. -/
inductive ConfigSource where
  /-- A table of keys and values, sorted by key without duplicates. -/
  | table (values : List (String × String))
  /-- Environment variables whose names start with `pre`, taken from `vars`. -/
  | env (pre : String) (vars : List (String × String))
  /-- Layers searched first to last. -/
  | layered (layers : List ConfigSource)
deriving Repr, Inhabited

namespace ConfigTable

/-- Insert or replace `key`, keeping the keys sorted. -/
def set : List (String × String) → String → String → List (String × String)
  | [], k, v => [(k, v)]
  | (k', v') :: rest, k, v =>
    if k == k' then (k, v) :: rest
    else if k < k' then (k, v) :: (k', v') :: rest
    else (k', v') :: set rest k v

/-- The table of `pairs`, later pairs replacing earlier ones. -/
def ofPairs (pairs : List (String × String)) : List (String × String) :=
  pairs.foldl (fun acc (k, v) => set acc k v) []

end ConfigTable

/-- The environment variable name of `key` under prefix `pre`: dots and dashes become
underscores and ASCII letters are upper-cased. -/
def envVariableName (pre key : String) : String :=
  pre ++ String.ofList (key.toList.map (fun c => if c == '.' || c == '-' then '_' else c.toUpper))

namespace ConfigSource

/-- An empty table. -/
def empty : ConfigSource := .table []

/-- The value of `key` in an environment. -/
def envValue (vars : List (String × String)) (name : String) : Option String :=
  (vars.find? (fun p => p.1 == name)).map Prod.snd

mutual
/-- The raw value stored for `key`. -/
def lookup : ConfigSource → String → Option String
  | .table values, key => (values.find? (fun p => p.1 == key)).map Prod.snd
  | .env pre vars, key => envValue vars (envVariableName pre key)
  | .layered layers, key => lookupLayers layers key

/-- The first layer's trimmed value. -/
def lookupLayers : List ConfigSource → String → Option String
  | [], _ => none
  | l :: rest, key =>
    match (lookup l key).map Text.trim with
    | some v => if v.isEmpty then lookupLayers rest key else some v
    | none => lookupLayers rest key
end

/-- The trimmed value of `key`; blank counts as missing. -/
def get (c : ConfigSource) (key : String) : Option String :=
  match (c.lookup key).map Text.trim with
  | some v => if v.isEmpty then none else some v
  | none => none

/-- The value of the first key in `keys` that has one. -/
def firstOf (c : ConfigSource) : List String → Option String
  | [] => none
  | k :: rest =>
    match c.get k with
    | some v => some v
    | none => c.firstOf rest

/-- The value of `key` as a number of seconds. -/
def seconds (c : ConfigSource) (key : String) : Except ModelError (Option Duration) :=
  match c.get key with
  | none => .ok none
  | some value =>
    match Text.readUnsigned 64 value with
    | .ok n => .ok (some (Duration.ofSecs n))
    | .error e => .error (.configNumber key value e)

/-- The value of `key` read as one of the names in `table`. -/
def parse {α : Type} (c : ConfigSource) (table : List (String × α)) (key : String) :
    Except ModelError (Option α) :=
  match c.get key with
  | none => .ok none
  | some value =>
    match readVariant table value with
    | .ok v => .ok (some v)
    | .error e => .error (.configValue key value e)

end ConfigSource

namespace ConfigFlatten

/-- The text of a number as a document value prints it: integers in decimal, finite floats
positionally (`1`, `0.5`, `-0`), `.nan`, `.inf` and `-.inf`. -/
def numberText : Number → String
  | .nat k => toString k
  | .neg k => toString k
  | .float (.nan _) => ".nan"
  | .float (.infinite negative) => if negative then "-.inf" else ".inf"
  | .float x => x.display

/-- The text of a mapping key, when it can be part of a dotted key. -/
def keyText : Content → Option String
  | .str s => some s
  | .num n => some (numberText n)
  | .bool b => some (if b then "true" else "false")
  | _ => none

/-- The text of a leaf value. -/
def leafText : Content → Option String := keyText

/-- Whether two scalar keys are the same document value: of one kind (a string, a boolean, a
non-negative or a negative integer, a float) and equal, floats compared as numbers (so `0.0`
and `-0.0` are one key) with every NaN the same key. Collection keys are never addressed, so
they are taken as distinct. -/
def sameKey : Content → Content → Bool
  | .str a, .str b => a == b
  | .bool a, .bool b => a == b
  | .unit, .unit => true
  | .num (.nat a), .num (.nat b) => a == b
  | .num (.neg a), .num (.neg b) => a == b
  | .num (.float x), .num (.float y) => (x.isNaN && y.isNaN) || x.eqv y
  | _, _ => false

/-- Add an entry to a mapping as a document does: a key already present keeps its first form,
takes the new value and moves to the end. -/
def insertEntry (entries : List (Content × Content)) (k v : Content) : List (Content × Content) :=
  match entries.find? (fun e => sameKey e.1 k) with
  | some (first, _) => entries.filter (fun e => !sameKey e.1 k) ++ [(first, v)]
  | none => entries ++ [(k, v)]

/-- The entries of a mapping as a document keeps them, each key once. -/
def mergeEntries (entries : List (Content × Content)) : List (Content × Content) :=
  entries.foldl (fun acc (k, v) => insertEntry acc k v) []

mutual
/-- A value as a document keeps it: every mapping in it, at any depth, with each key once. -/
def merged : Content → Content
  | .map entries => .map (mergeEntries (mergedValues entries))
  | c => c

/-- Mapping entries with their values merged. -/
def mergedValues : List (Content × Content) → List (Content × Content)
  | [] => []
  | (k, v) :: rest => (k, merged v) :: mergedValues rest
end

/-- The dotted key of `key` under `pre`. -/
def join (pre : Option String) (key : String) : String :=
  match pre with
  | none => key
  | some p => p ++ "." ++ key

mutual
/-- Flatten a value under the dotted key `pre` into `out`. -/
def flatten (pre : Option String) : Content → List (String × String) → List (String × String)
  | .map entries, out => flattenEntries pre entries out
  | c, out =>
    match pre, leafText c with
    | some key, some text => ConfigTable.set out key text
    | _, _ => out

/-- Flatten mapping entries, already merged, under `pre`. -/
def flattenEntries (pre : Option String) :
    List (Content × Content) → List (String × String) → List (String × String)
  | [], out => out
  | (k, v) :: rest, out =>
    match keyText k with
    | some key => flattenEntries pre rest (flatten (some (join pre key)) v out)
    | none => flattenEntries pre rest out
end

end ConfigFlatten

/-- The configuration table of a document value: its leaves under their dotted keys. -/
def ConfigSource.ofValue (v : Content) : ConfigSource :=
  .table (ConfigFlatten.flatten none v [])

/-- The configuration table of a YAML document's content. -/
def ConfigSource.ofContent (c : Content) : ConfigSource :=
  ofValue (ConfigFlatten.merged c)

end OlmProvision
