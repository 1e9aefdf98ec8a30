import OlmProvision.Json.Value

/-
JSON pointers and merge patches.

A pointer is empty (the whole document) or a sequence of `/`-separated tokens in which `~1`
stands for `/` and `~0` for `~`. A token selects an object member by name, or an array item by
an index written in decimal without a sign and without leading zeros. `setAt` writes through a
pointer, creating missing objects on the way; it refuses a path that runs through something
other than an object, and an empty pointer. A merge patch replaces the target by any patch
that is not an object; an object patch removes the members it sets to null and merges the
others member by member.
-/
namespace OlmProvision

namespace Pointer

/-- Decode the escapes of a token from left to right: `~1` stands for `/` and `~0` for `~`, and
a `~` before anything else stays. The same as replacing every `~1` by `/` and then every `~0`
by `~`, since neither replacement can make an occurrence of the other. -/
def unescape : List Char → List Char
  | '~' :: '1' :: rest => '/' :: unescape rest
  | '~' :: '0' :: rest => '~' :: unescape rest
  | c :: rest => c :: unescape rest
  | [] => []

/-- The tokens of a pointer, or `none` when it does not start with `/`; the empty pointer has
no tokens. -/
def tokens (pointer : String) : Option (List String) :=
  if pointer.isEmpty then some []
  else match pointer.toList with
    | '/' :: rest => some ((rest.splitOn '/').map fun token => String.ofList (unescape token))
    | _ => none

/-- An array index token: decimal digits, no sign, no leading zero except `0` itself. -/
def index? (token : String) : Option Nat :=
  let cs := token.toList
  if cs.isEmpty || !cs.all Char.isDigit then none
  else if cs.head? == some '0' && cs.length != 1 then none
  else some (cs.foldl (fun acc c => acc * 10 + (c.toNat - 0x30)) 0)

/-- Follow tokens through a document. -/
def follow : Json → List String → Option Json
  | j, [] => some j
  | .obj fs, t :: rest => (Fields.get? fs t).bind (fun v => follow v rest)
  | .arr xs, t :: rest => (index? t).bind (fun i => xs[i]?.bind (fun v => follow v rest))
  | _, _ :: _ => none

end Pointer

namespace Json

/-- The value at `pointer`. -/
def pointer (j : Json) (p : String) : Option Json :=
  (Pointer.tokens p).bind (Pointer.follow j)

/-- Write `value` at the end of `tokens`, creating objects for missing members. -/
def setTokens : Json → List String → Json → Option Json
  | .obj fs, [t], value => some (.obj (Fields.insert fs t value))
  | .obj fs, t :: rest, value =>
    let child := (Fields.get? fs t).getD (.obj [])
    (setTokens child rest value).map (fun c => .obj (Fields.insert fs t c))
  | _, _, _ => none

/-- Write `value` at `pointer`; `none` when the pointer does not start with `/` or its path
runs through something that is not an object. -/
def setAt (j : Json) (p : String) (value : Json) : Option Json :=
  match Pointer.tokens p with
  | some (t :: ts) => setTokens j (t :: ts) value
  | _ => none

mutual
/-- Apply a merge patch. -/
def mergePatch : Json → Json → Json
  | target, .obj patch =>
    let base := match target with
      | .obj fs => fs
      | _ => []
    .obj (mergeFields base patch)
  | _, patch => patch

/-- Apply the members of an object patch to the members of the target. -/
def mergeFields : Fields → List (String × Json) → Fields
  | fs, [] => fs
  | fs, (k, v) :: rest =>
    match v with
    | .null => mergeFields (Fields.erase fs k) rest
    | _ =>
      let current := (Fields.get? fs k).getD .null
      mergeFields (Fields.insert fs k (mergePatch current v)) rest
end

end Json

end OlmProvision
