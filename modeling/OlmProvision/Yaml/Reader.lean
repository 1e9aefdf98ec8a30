import OlmProvision.Yaml.Parser

/-
Reading a YAML text into a node tree: the last stage, composing events into documents.

    text ──tokenize──▶ tokens ──parse──▶ events ──compose──▶ documents

Composition keeps a stack of the collections being built. A scalar, or a collection when its
end event comes, is attached to the collection on top: a sequence takes it as its next item, a
mapping as a key and then as that key's value. A node with nothing below it is a document.

An anchored node is remembered by its anchor number once it is complete, and an alias stands
for a copy of it. An alias met while its anchored node is still being built is inside that node;
it is kept as `Node.recursive`.

A text is read when it holds exactly one document: no document at all, or two or more, is
refused, and so is a text the scanner or the parser refuses.
-/
namespace OlmProvision.Yaml

/-- A collection being built: its anchor number, and its items or entries so far, latest
first; a mapping also holds a key waiting for its value. -/
inductive Frame where
  | seq (anchor : Nat) (items : List Node)
  | map (anchor : Nat) (entries : List (Node × Node)) (key : Option Node)

/-- The composer's state: the collections being built, innermost first, the completed anchored
nodes, and the documents read, latest first. -/
structure Composer where
  frames : List Frame
  anchored : List (Nat × Node)
  documents : List Node

namespace Composer

/-- Attach a completed node, remembering it under its anchor number unless that is 0. -/
def attach (c : Composer) (node : Node) (anchor : Nat) : Composer :=
  let c := if anchor = 0 then c else { c with anchored := (anchor, node) :: c.anchored }
  match c.frames with
  | [] => { c with documents := node :: c.documents }
  | .seq a items :: rest => { c with frames := .seq a (node :: items) :: rest }
  | .map a entries none :: rest => { c with frames := .map a entries (some node) :: rest }
  | .map a entries (some key) :: rest =>
    { c with frames := .map a ((key, node) :: entries) none :: rest }

/-- Take one event. -/
def feed (c : Composer) : Event → Composer
  | .aliasOf id => c.attach ((c.anchored.lookup id).getD .recursive) 0
  | .scalar text style anchor tag => c.attach (.scalar text style tag) anchor
  | .sequenceStart anchor => { c with frames := .seq anchor [] :: c.frames }
  | .mappingStart anchor => { c with frames := .map anchor [] none :: c.frames }
  | .sequenceEnd | .mappingEnd =>
    match c.frames with
    | .seq a items :: rest => { c with frames := rest }.attach (.seq items.reverse) a
    | .map a entries _ :: rest => { c with frames := rest }.attach (.map entries.reverse) a
    | [] => c
  | _ => c

end Composer

/-- The documents of an event stream. -/
def compose (events : List Event) : List Node :=
  (events.foldl Composer.feed ⟨[], [], []⟩).documents.reverse

/-- The documents of a YAML text, or why it cannot be read. -/
def documents (text : String) : Except ReadError (List Node) := do
  let tokens ← tokenize text
  let events ← parseTokens tokens
  return compose events

/-- The one document of a YAML text. -/
def read (text : String) : Option Node :=
  match documents text with
  | .ok [node] => some node
  | _ => none

end OlmProvision.Yaml
