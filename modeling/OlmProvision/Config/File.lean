import OlmProvision.Config.Source
import OlmProvision.Files.Tree
import OlmProvision.Yaml.Reader

/-
Configuration written as a YAML document, given as text or as a file of the working directory.

A document that does not parse, or that holds a value a configuration cannot be built from, is
refused as a whole; a file that cannot be read is refused with the operating system's reason.
-/
namespace OlmProvision

namespace ConfigSource

/-- The configuration of a YAML document, or `none` when the text is not one. -/
def ofYaml? (text : String) : Option ConfigSource :=
  match Yaml.read text with
  | none => none
  | some node =>
    match node.toContent with
    | .ok c => some (ofContent c)
    | .error _ => none

/-- The configuration in the YAML file at `path`. -/
def fromPath (files : FileTree) (path : String) : Except ModelError ConfigSource :=
  match files.read path with
  | .error e => .error (.configRead path e.message)
  | .ok text =>
    match ofYaml? text with
    | some c => .ok c
    | none => .error (.configParse path)

end ConfigSource

end OlmProvision
