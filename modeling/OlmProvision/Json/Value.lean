import OlmProvision.Numeric.Binary64

/-
JSON documents as the cluster model keeps them.

Numbers keep the three kinds a JSON reader tells apart: a non-negative integer that fits 64
bits, a negative integer that fits 64 bits, and a binary64 number for everything else. Two
numbers are equal only when they are of one kind, binary64 numbers comparing as IEEE numbers
do (`0.0` equals `-0.0`). Objects keep their members in ascending key order without
duplicates, so an object is determined by its members and a later write of a key replaces the
earlier one. Main statement: `Fields.get?_insert_self`, a lookup after a write sees the written
value.
-/
namespace OlmProvision

/-- A JSON number. `nat` holds integers up to `2 ^ 64 - 1` and `neg` negative integers down to
`-2 ^ 63`; a `float` is finite. -/
inductive Number where
  | nat (n : Nat)
  | neg (n : Int)
  | float (x : Binary64)
deriving DecidableEq, Repr, Inhabited

namespace Number

/-- The largest value of an unsigned 64-bit word. -/
def u64Max : Nat := 18446744073709551615

/-- The largest value of a signed 64-bit word. -/
def i64Max : Nat := 9223372036854775807

/-- The number of an integer, in the kind a JSON reader gives it; an integer beyond the 64-bit
ranges is rounded to a binary64 number. -/
def ofInt (i : Int) : Number :=
  if i < 0 then
    if -i ≤ (i64Max : Int) + 1 then .neg i else .float (Binary64.ofRatio true i.natAbs 1)
  else if i.toNat ≤ u64Max then .nat i.toNat else .float (Binary64.ofRatio false i.toNat 1)

/-- The value as an unsigned 64-bit integer, if it is one. -/
def toU64? : Number → Option Nat
  | .nat n => if n ≤ u64Max then some n else none
  | _ => none

/-- The value as a signed 64-bit integer, if it is one. -/
def toI64? : Number → Option Int
  | .nat n => if n ≤ i64Max then some n else none
  | .neg n => some n
  | .float _ => none

/-- Equality of numbers: of one kind and equal, binary64 numbers by IEEE equality. -/
def beq : Number → Number → Bool
  | .nat a, .nat b => a == b
  | .neg a, .neg b => a == b
  | .float a, .float b => a.eqv b
  | _, _ => false

end Number

/-- A JSON value. -/
inductive Json where
  | null
  | bool (b : Bool)
  | num (n : Number)
  | str (s : String)
  | arr (items : List Json)
  | obj (fields : List (String × Json))
deriving Repr, Inhabited

namespace Json

mutual
/-- Structural equality of documents. -/
def beq : Json → Json → Bool
  | .null, .null => true
  | .bool a, .bool b => a == b
  | .num a, .num b => a.beq b
  | .str a, .str b => a == b
  | .arr a, .arr b => beqList a b
  | .obj a, .obj b => beqFields a b
  | _, _ => false

/-- Element-wise equality of two arrays. -/
def beqList : List Json → List Json → Bool
  | [], [] => true
  | x :: xs, y :: ys => beq x y && beqList xs ys
  | _, _ => false

/-- Member-wise equality of two member lists. -/
def beqFields : List (String × Json) → List (String × Json) → Bool
  | [], [] => true
  | (k, x) :: xs, (l, y) :: ys => k == l && beq x y && beqFields xs ys
  | _, _ => false
end

instance : BEq Json := ⟨beq⟩

/-- An integer value. -/
def int (i : Int) : Json := .num (Number.ofInt i)

/-- A natural number value. -/
def nat (n : Nat) : Json := .num (Number.ofInt n)

/-- The text of a string value. -/
def asString? : Json → Option String
  | .str s => some s
  | _ => none

/-- The items of an array value. -/
def asArray? : Json → Option (List Json)
  | .arr xs => some xs
  | _ => none

/-- The members of an object value. -/
def asObject? : Json → Option (List (String × Json))
  | .obj fs => some fs
  | _ => none

/-- The truth value of a boolean value. -/
def asBool? : Json → Option Bool
  | .bool b => some b
  | _ => none

/-- The value as an unsigned 64-bit integer. -/
def asU64? : Json → Option Nat
  | .num n => n.toU64?
  | _ => none

/-- The value as a signed 64-bit integer. -/
def asI64? : Json → Option Int
  | .num n => n.toI64?
  | _ => none

/-- Whether the value is `null`. -/
def isNull : Json → Bool
  | .null => true
  | _ => false

/-- Whether the value is an object. -/
def isObject : Json → Bool
  | .obj _ => true
  | _ => false

end Json

/-- The members of a JSON object, in ascending key order. -/
abbrev Fields := List (String × Json)

namespace Fields

/-- The value stored under `key`. -/
def get? (fs : Fields) (key : String) : Option Json :=
  (fs.find? (fun p => p.1 == key)).map Prod.snd

/-- Store `value` under `key`, replacing an earlier value and keeping the keys ascending. -/
def insert : Fields → String → Json → Fields
  | [], key, value => [(key, value)]
  | (k, v) :: rest, key, value =>
    if key < k then (key, value) :: (k, v) :: rest
    else if key = k then (key, value) :: rest
    else (k, v) :: insert rest key value

/-- Remove the member named `key`. -/
def erase (fs : Fields) (key : String) : Fields :=
  fs.filter (fun p => p.1 != key)

/-- The members of a list of pairs, later pairs winning. -/
def ofList (pairs : List (String × Json)) : Fields :=
  pairs.foldl (fun acc p => insert acc p.1 p.2) []

/-- The keys, in order. -/
def keys (fs : Fields) : List String := fs.map Prod.fst

theorem get?_insert_self (fs : Fields) (key : String) (value : Json) :
    (insert fs key value).get? key = some value := by
  induction fs with
  | nil => simp [insert, get?]
  | cons p rest ih =>
    obtain ⟨k, v⟩ := p
    unfold insert
    by_cases h1 : key < k
    · simp [h1, get?]
    · by_cases h2 : key = k
      · simp [h2, get?]
      · have hne : (k == key) = false := by
          simp only [beq_eq_false_iff_ne]; exact fun h => h2 h.symm
        simp only [h1, h2, if_false]
        simp only [get?, List.find?_cons, hne] at ih ⊢
        exact ih

end Fields

namespace Json

/-- An object built from pairs, later pairs winning. -/
def object (pairs : List (String × Json)) : Json := .obj (Fields.ofList pairs)

/-- The member `key` of an object; `none` for other values. -/
def get? (j : Json) (key : String) : Option Json :=
  match j with
  | .obj fs => Fields.get? fs key
  | _ => none

/-- Set member `key` of an object; any other value becomes an object first. -/
def set (j : Json) (key : String) (value : Json) : Json :=
  match j with
  | .obj fs => .obj (Fields.insert fs key value)
  | _ => .obj [(key, value)]

/-- Remove member `key` of an object; other values are left alone. -/
def erase (j : Json) (key : String) : Json :=
  match j with
  | .obj fs => .obj (Fields.erase fs key)
  | other => other

/-- The string member `key`, if the value is an object holding a string there. -/
def getString? (j : Json) (key : String) : Option String :=
  (j.get? key).bind asString?

/-- An optional string as a value: `null` when absent. -/
def ofOption (s : Option String) : Json :=
  match s with
  | some v => .str v
  | none => .null

/-- A list of strings as an array value. -/
def strings (xs : List String) : Json := .arr (xs.map .str)

end Json

end OlmProvision
