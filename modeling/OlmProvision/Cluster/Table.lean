/-
Keyed tables: association lists kept in ascending key order with at most one entry per key.

The order is the one an ordered map iterates in, so listing a table gives its entries sorted
by key. `put` replaces the entry of an existing key in place and inserts a new key before the
first greater one; both preserve the order.
-/
namespace OlmProvision

/-- A table from keys `κ` to values `α`, sorted by key. -/
structure Table (κ α : Type) where
  entries : List (κ × α)
deriving Inhabited

namespace Table

variable {κ α : Type} [Ord κ]

/-- The empty table. -/
def empty : Table κ α := ⟨[]⟩

/-- Write `v` at `k` into a sorted list. -/
def putList (k : κ) (v : α) : List (κ × α) → List (κ × α)
  | [] => [(k, v)]
  | (k', v') :: rest =>
    match compare k k' with
    | .lt => (k, v) :: (k', v') :: rest
    | .eq => (k, v) :: rest
    | .gt => (k', v') :: putList k v rest

/-- Write `v` at `k`. -/
def put (t : Table κ α) (k : κ) (v : α) : Table κ α := ⟨putList k v t.entries⟩

/-- Look up a sorted list. -/
def getList (k : κ) : List (κ × α) → Option α
  | [] => none
  | (k', v) :: rest => if compare k k' == .eq then some v else getList k rest

/-- The value at `k`. -/
def get? (t : Table κ α) (k : κ) : Option α := getList k t.entries

/-- Whether `k` has a value. -/
def contains (t : Table κ α) (k : κ) : Bool := (t.get? k).isSome

/-- Remove the entry of `k`. -/
def erase (t : Table κ α) (k : κ) : Table κ α :=
  ⟨t.entries.filter (fun e => compare e.1 k != .eq)⟩

/-- Change the value at `k`, if there is one. -/
def modify (t : Table κ α) (k : κ) (f : α → α) : Table κ α :=
  ⟨t.entries.map (fun e => if compare e.1 k == .eq then (e.1, f e.2) else e)⟩

/-- Keep the entries that satisfy `p`. -/
def filter (t : Table κ α) (p : κ → α → Bool) : Table κ α := ⟨t.entries.filter (fun e => p e.1 e.2)⟩

/-- The values in key order. -/
def values (t : Table κ α) : List α := t.entries.map Prod.snd

/-- The keys in order. -/
def keys (t : Table κ α) : List κ := t.entries.map Prod.fst

/-- The number of entries. -/
def size (t : Table κ α) : Nat := t.entries.length

end Table

/-- A named thing in a namespace; ordered by namespace, then name. -/
structure Place where
  namespaceName : String
  name : String
deriving DecidableEq, Repr, Inhabited

instance : Ord Place :=
  ⟨fun a b => (compare a.namespaceName b.namespaceName).then (compare a.name b.name)⟩

/-- The key of a stored object: kind, namespace and name, ordered in that sequence. -/
structure ObjectKey where
  kind : String
  namespaceName : String
  name : String
deriving DecidableEq, Repr, Inhabited

instance : Ord ObjectKey :=
  ⟨fun a b => (compare a.kind b.kind).then
    ((compare a.namespaceName b.namespaceName).then (compare a.name b.name))⟩

end OlmProvision
