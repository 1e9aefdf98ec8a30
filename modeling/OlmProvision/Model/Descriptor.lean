import OlmProvision.Decode.Input

/-
Operator descriptors: everything needed to subscribe to an operator package.

The enumerations have fixed names (see `readVariant`). A descriptor's document form has its
fields in camel case and leaves out the optional fields that are not set.
-/
namespace OlmProvision

/-- Whether OLM installs new operator versions on its own or waits for approval. -/
inductive InstallPlanApproval where
  | automatic
  | manual
deriving DecidableEq, Repr, Inhabited

namespace InstallPlanApproval

/-- The approvals by name. -/
def table : List (String × InstallPlanApproval) := [("Automatic", .automatic), ("Manual", .manual)]

/-- The name of an approval. -/
def name : InstallPlanApproval → String
  | .automatic => "Automatic"
  | .manual => "Manual"

/-- Read an approval from its name. -/
def read (word : String) : Except String InstallPlanApproval := readVariant table word

end InstallPlanApproval

/-- Which flavour of an operator package is installed. -/
inductive Distribution where
  | community
  | productized
deriving DecidableEq, Repr, Inhabited

namespace Distribution

/-- The distributions by name. -/
def table : List (String × Distribution) := [("community", .community), ("productized", .productized)]

/-- The name of a distribution. -/
def name : Distribution → String
  | .community => "community"
  | .productized => "productized"

/-- Read a distribution from its name. -/
def read (word : String) : Except String Distribution := readVariant table word

end Distribution

/-- The lifecycle of an operator subscription as the provisioner sees it. -/
inductive SubscriptionState where
  | absent
  | subscribing
  | subscribed
  | unsubscribing
deriving DecidableEq, Repr, Inhabited

namespace SubscriptionState

/-- The states by name. -/
def table : List (String × SubscriptionState) :=
  [("Absent", .absent), ("Subscribing", .subscribing), ("Subscribed", .subscribed),
   ("Unsubscribing", .unsubscribing)]

/-- The name of a state. -/
def name : SubscriptionState → String
  | .absent => "Absent"
  | .subscribing => "Subscribing"
  | .subscribed => "Subscribed"
  | .unsubscribing => "Unsubscribing"

end SubscriptionState

/-- Everything needed to subscribe to an operator package through OLM. -/
structure OperatorDescriptor where
  packageManifestId : String
  catalogSourceName : String
  catalogSourceNamespace : String
  indexImage : Option String
  channel : Option String
  startingCsv : Option String
  installPlanApproval : InstallPlanApproval
  distribution : Distribution
deriving DecidableEq, Repr, Inhabited

namespace OperatorDescriptor

/-- The document form. -/
def toJson (d : OperatorDescriptor) : Json :=
  let optional := [("indexImage", d.indexImage), ("channel", d.channel),
    ("startingCsv", d.startingCsv)].filterMap (fun (k, v) => v.map (fun s => (k, Json.str s)))
  Json.object ([("packageManifestId", .str d.packageManifestId),
    ("catalogSourceName", .str d.catalogSourceName),
    ("catalogSourceNamespace", .str d.catalogSourceNamespace),
    ("installPlanApproval", .str d.installPlanApproval.name),
    ("distribution", .str d.distribution.name)] ++ optional)

/-- Decode the document form. -/
def decode (i : Input) : Decoded OperatorDescriptor := do
  let ms ← i.members ["packageManifestId", "catalogSourceName", "catalogSourceNamespace",
    "indexImage", "channel", "startingCsv", "installPlanApproval", "distribution"]
  return {
    packageManifestId := ← ms.required "packageManifestId" Input.string
    catalogSourceName := ← ms.required "catalogSourceName" Input.string
    catalogSourceNamespace := ← ms.required "catalogSourceNamespace" Input.string
    indexImage := ← ms.optional "indexImage" Input.string
    channel := ← ms.optional "channel" Input.string
    startingCsv := ← ms.optional "startingCsv" Input.string
    installPlanApproval := ← ms.required "installPlanApproval"
      (decodeVariant InstallPlanApproval.table)
    distribution := ← ms.required "distribution" (decodeVariant Distribution.table) }

end OperatorDescriptor

end OlmProvision
