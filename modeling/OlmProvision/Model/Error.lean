import OlmProvision.Text.Integer

/-
Errors of the cluster model: configuration that cannot be read or understood, and manifests
that lack what a handle needs.

Texts whose cause is a document reader's own diagnosis (a YAML or JSON syntax or shape error)
are not kept: such an error records only where it happened.
-/
namespace OlmProvision

/-- An error of the cluster model. -/
inductive ModelError where
  /-- A configuration file could not be read; `reason` is the operating system's text. -/
  | configRead (path reason : String)
  /-- A configuration file is no YAML document. -/
  | configParse (path : String)
  /-- A configuration value is none of the allowed words. -/
  | configValue (key value reason : String)
  /-- A configuration value is no number of seconds. -/
  | configNumber (key value : String) (reason : Text.IntegerError)
  /-- An object could not be converted between its typed and its generic form. -/
  | objectConversion (what : String)
  /-- A manifest lacks a field. -/
  | manifestField (field : String)
  /-- A manifest is no YAML document of an object. -/
  | manifestParse
deriving Repr, Inhabited

namespace ModelError

/-- The name of the error's kind. -/
def kind : ModelError → String
  | .configRead .. => "ConfigRead"
  | .configParse .. => "ConfigParse"
  | .configValue .. => "ConfigValue"
  | .configNumber .. => "ConfigNumber"
  | .objectConversion .. => "ObjectConversion"
  | .manifestField .. => "ManifestField"
  | .manifestParse => "ManifestParse"

/-- The error's text, when it does not depend on a reader's diagnosis. -/
def message? : ModelError → Option String
  | .configRead path reason =>
    some ("Unable to read configuration file '" ++ path ++ "': " ++ reason)
  | .configParse _ => none
  | .configValue key value reason =>
    some ("Invalid value '" ++ value ++ "' for configuration key '" ++ key ++ "': " ++ reason)
  | .configNumber key value reason =>
    some ("Invalid number '" ++ value ++ "' for configuration key '" ++ key ++ "': " ++
      reason.message)
  | .objectConversion _ => none
  | .manifestField field => some ("Manifest is missing '" ++ field ++ "'")
  | .manifestParse => none

/-- The causes below the error, outermost first, as far as their texts are known. -/
def causes : ModelError → List String
  | .configRead _ reason => [reason]
  | .configValue _ _ reason => [reason]
  | .configNumber _ _ reason => [reason.message]
  | _ => []

end ModelError

end OlmProvision
