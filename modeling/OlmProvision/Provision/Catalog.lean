import OlmProvision.Config.Source
import OlmProvision.Provision.Error

/-
Resolving the OLM subscription parameters of a product from configuration.

Every field is looked up under a product key `<product>.operators.<field>`, then under a
global key `olm.operators.<field>` where one exists, and falls back to a fixed default.
Optional fields that resolve to nothing stay unset, so that OLM's own defaults apply. The
package is the productized one when `<product>.operators.productized.package_manifest` is set,
else the community one (`community.package_manifest`, then `package_manifest`, then the
product name); the distribution picks the default catalog source.
-/
namespace OlmProvision

/-- The default catalog source of community packages. -/
def defaultCommunityCatalog : String := "community-operators"

/-- The default catalog source of productized packages. -/
def defaultProductizedCatalog : String := "redhat-operators"

/-- The default namespace of catalog sources. -/
def defaultCatalogNamespace : String := "openshift-marketplace"

namespace Catalog

/-- The product key of `field`. -/
def key (product field : String) : String := product ++ ".operators." ++ field

/-- The package manifest id and its distribution. -/
def packageManifest (config : ConfigSource) (product : String) : Distribution × String :=
  match config.get (key product "productized.package_manifest") with
  | some id => (.productized, id)
  | none =>
    match config.get (key product "community.package_manifest") with
    | some id => (.community, id)
    | none => (.community, (config.get (key product "package_manifest")).getD product)

/-- Resolve the descriptor of `product`. -/
def resolve (config : ConfigSource) (product : String) :
    Except ProvisionError OperatorDescriptor := do
  let (distribution, packageId) := packageManifest config product
  let hardDefault := match distribution with
    | .community => defaultCommunityCatalog
    | .productized => defaultProductizedCatalog
  let catalogName := (config.firstOf [key product "catalog_source",
    "olm.operators.catalog_source"]).getD hardDefault
  let catalogNamespace := (config.firstOf [key product "namespace", "olm.operators.namespace"]).getD
    defaultCatalogNamespace
  let indexImage := config.firstOf [key product "index_image", "olm.operators.index_image"]
  let channel := config.get (key product "channel")
  let startingCsv := config.get (key product "starting_csv")
  let productApproval ← (config.parse InstallPlanApproval.table
    (key product "install_plan_approval")).mapError .configurationValue
  let approval ← match productApproval with
    | some a => pure a
    | none => do
      let globalApproval ← (config.parse InstallPlanApproval.table
        "olm.operators.install_plan_approval").mapError .configurationValue
      pure (globalApproval.getD .automatic)
  return {
    packageManifestId := packageId
    catalogSourceName := catalogName
    catalogSourceNamespace := catalogNamespace
    indexImage := indexImage
    channel := channel
    startingCsv := startingCsv
    installPlanApproval := approval
    distribution := distribution }

/-- An optional text in debug form. -/
def debugOption (v : Option String) : String :=
  match v with
  | some s => "Some(" ++ Text.quote s ++ ")"
  | none => "None"

/-- The debug form of a descriptor, as the resolver logs it. -/
def debugText (d : OperatorDescriptor) : String :=
  let approval := match d.installPlanApproval with
    | .automatic => "Automatic"
    | .manual => "Manual"
  let distribution := match d.distribution with
    | .community => "Community"
    | .productized => "Productized"
  "OperatorDescriptor \x7b package_manifest_id: " ++ Text.quote d.packageManifestId ++
    ", catalog_source_name: " ++ Text.quote d.catalogSourceName ++
    ", catalog_source_namespace: " ++ Text.quote d.catalogSourceNamespace ++
    ", index_image: " ++ debugOption d.indexImage ++ ", channel: " ++ debugOption d.channel ++
    ", starting_csv: " ++ debugOption d.startingCsv ++ ", install_plan_approval: " ++ approval ++
    ", distribution: " ++ distribution ++ " \x7d"

/-- The debug record the resolver writes. -/
def resolvedMessage (product : String) (d : OperatorDescriptor) : String :=
  "resolved operator descriptor for '" ++ product ++ "': " ++ debugText d

end Catalog

end OlmProvision
