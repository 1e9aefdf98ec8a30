import OlmProvision.Json.Value

/-
JSON Schemas (draft 7) of the descriptor's approval mode and of readiness, as published to
tools that validate product manifests.

A readiness is one of five shapes: the bare word `exists`, or an object with exactly one of
`podsRunning`, `condition`, `statusField` and `all`, whose inner readinesses refer back to the
readiness definition.
-/
namespace OlmProvision

namespace Schema

/-- The schema dialect. -/
def dialect : String := "http://json-schema.org/draft-07/schema#"

/-- A string property. -/
def stringType : Json := Json.object [("type", .str "string")]

/-- An object with one required property `name` of the given schema. -/
def tagged (description name : String) (inner : Json) : Json :=
  Json.object [("additionalProperties", .bool false), ("description", .str description),
    ("properties", Json.object [(name, inner)]), ("required", Json.strings [name]),
    ("type", .str "object")]

/-- An object with the given properties, some required. -/
def record (properties : List (String × Json)) (required : List String) : Json :=
  Json.object [("properties", Json.object properties), ("required", Json.strings required),
    ("type", .str "object")]

/-- The description of readiness. -/
def readinessDescription : String :=
  "How to tell that a product CR has reached its ready state. Readiness is always evaluated " ++
  "against the live cluster and knows nothing about specific products."

/-- The five shapes of a readiness. -/
def readinessShapes : List Json :=
  [Json.object [("description", .str "The CR exists. Used for CRs that have no observable ready state."),
     ("enum", Json.strings ["exists"]), ("type", .str "string")],
   tagged "Exactly the desired number of pods matching `selector` are `Running` and none are terminating."
     "podsRunning" (record [("selector", stringType)] ["selector"]),
   tagged "`status.conditions` holds an entry with this `type` and `status`." "condition"
     (record [("status", Json.object [("default", .str "True"), ("type", .str "string")]),
       ("type", stringType)] ["type"]),
   tagged "The value at the JSON `pointer` equals `value`." "statusField"
     (record [("pointer", stringType), ("value", .bool true)] ["pointer", "value"]),
   tagged "Every inner readiness check passes." "all"
     (Json.object [("items", Json.object [("$ref", .str "#/definitions/Readiness")]),
       ("type", .str "array")])]

/-- The schema of readiness. -/
def readiness : Json :=
  Json.object [("$schema", .str dialect),
    ("definitions", Json.object [("Readiness", Json.object [
      ("description", .str readinessDescription), ("oneOf", .arr readinessShapes)])]),
    ("description", .str readinessDescription), ("oneOf", .arr readinessShapes),
    ("title", .str "Readiness")]

/-- The schema of the install plan approval mode. -/
def approval : Json :=
  Json.object [("$schema", .str dialect),
    ("description", .str ("Whether OLM installs new operator versions on its own or waits for " ++
      "someone to approve the `InstallPlan`.")),
    ("enum", Json.strings ["Automatic", "Manual"]), ("title", .str "InstallPlanApproval"),
    ("type", .str "string")]

end Schema

end OlmProvision
