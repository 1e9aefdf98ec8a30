/-
YAML documents as read: a tree of scalars, sequences and mappings.

A scalar keeps its text as written, after quotes, escapes and line folding are removed, how it
was written, and its tag if it has one. Only a plain scalar can stand for `null`, a boolean or
a number by itself; a tag says what a scalar is whatever its style. Tags are kept as written,
a handle (`!!`, `!`, `!name!`, or nothing for a verbatim `!<...>` tag) and a suffix.

An alias stands for a copy of the node its anchor marks. An alias to a node that contains it
would stand for an infinite tree; it is kept as `recursive`, which no reading of a value
accepts. Mapping entries keep their written order, repeated keys included.
-/
namespace OlmProvision.Yaml

/-- How a scalar was written. -/
inductive ScalarStyle where
  | plain
  | singleQuoted
  | doubleQuoted
  | literal
  | folded
deriving DecidableEq, Repr, Inhabited

/-- A tag as written: its handle and its suffix. -/
structure Tag where
  handle : String
  suffix : String
deriving DecidableEq, Repr, Inhabited

namespace Tag

/-- Whether the tag is the core tag `!!name`. -/
def isCore (t : Tag) (name : String) : Bool := t.handle == "!!" && t.suffix == name

end Tag

/-- A node of a YAML document. -/
inductive Node where
  | scalar (text : String) (style : ScalarStyle) (tag : Option Tag)
  | seq (items : List Node)
  | map (entries : List (Node × Node))
  | recursive
deriving Repr, Inhabited

namespace Node

/-- The node an empty value reads as: the plain scalar `~`. -/
def empty : Node := .scalar "~" .plain none

/-- The raw text of a scalar node. -/
def scalarText? : Node → Option String
  | .scalar t _ _ => some t
  | _ => none

end Node

end OlmProvision.Yaml
