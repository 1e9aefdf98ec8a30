import OlmProvision.Client.Error
import OlmProvision.Model.Event
import OlmProvision.Model.Error
import OlmProvision.Text.Duration

/-
Errors of the provisioner, and the lifecycle stages they happen in.

A timeout and a fail-fast abort are kept apart from every other error, so a cluster that is
still converging can be told from one that has already reported a failure; both name the
stage that waited. A configuration error is one where something required is missing or
misconfigured and no wait was attempted.
-/
namespace OlmProvision

/-- The lifecycle step during which an error occurred. -/
inductive Stage where
  | configure
  | subscribe
  | deploy
  | scale
  | undeploy
  | unsubscribe
deriving DecidableEq, Repr, Inhabited

namespace Stage

/-- The stages by name. -/
def table : List (String × Stage) :=
  [("configure", .configure), ("subscribe", .subscribe), ("deploy", .deploy), ("scale", .scale),
   ("undeploy", .undeploy), ("unsubscribe", .unsubscribe)]

/-- The name of a stage. -/
def name : Stage → String
  | .configure => "configure"
  | .subscribe => "subscribe"
  | .deploy => "deploy"
  | .scale => "scale"
  | .undeploy => "undeploy"
  | .unsubscribe => "unsubscribe"

end Stage

/-- An error of the provisioner. -/
inductive ProvisionError where
  /-- Something required is missing or misconfigured. -/
  | configuration (message : String)
  /-- A configuration value is invalid. -/
  | configurationValue (source : ModelError)
  /-- A wait ran out of time. -/
  | timedOut (stage : Stage) (what : String) (timeout : Duration)
  /-- A wait was aborted by a fatal cluster event. -/
  | failFastAbort (stage : Stage) (what : String) (event : ClusterEvent)
  /-- A resource to be created exists already. -/
  | resourceConflict (kind name ns : String)
  /-- A resource was waited on before it was created. -/
  | notCreated (kind name : String)
  /-- An operation was asked for at the wrong time. -/
  | lifecycle (action reason : String)
  /-- A product manifest is invalid. -/
  | manifest (message : String)
  /-- A product manifest file could not be read. -/
  | manifestRead (path reason : String)
  /-- A product manifest is no YAML document of a manifest. -/
  | manifestParse
  /-- A resource of a product manifest is invalid. -/
  | manifestModel (source : ModelError)
  /-- A cluster call failed. -/
  | client (action : String) (source : ClientError)
deriving Repr, Inhabited

namespace ProvisionError

/-- The name of the error's kind. -/
def kind : ProvisionError → String
  | .configuration .. => "Configuration"
  | .configurationValue .. => "ConfigurationValue"
  | .timedOut .. => "TimedOut"
  | .failFastAbort .. => "FailFastAbort"
  | .resourceConflict .. => "ResourceConflict"
  | .notCreated .. => "NotCreated"
  | .lifecycle .. => "Lifecycle"
  | .manifest .. => "Manifest"
  | .manifestRead .. => "ManifestRead"
  | .manifestParse => "ManifestParse"
  | .manifestModel .. => "ManifestModel"
  | .client .. => "Client"

/-- The error's text; `none` when it depends on a reader's or decoder's diagnosis. -/
def message? : ProvisionError → Option String
  | .configuration message => some ("Configuration error: " ++ message)
  | .configurationValue source => source.message?.map ("Invalid configuration: " ++ ·)
  | .timedOut stage what timeout =>
    some ("Timed out during " ++ stage.name ++ " after " ++ timeout.text ++ " waiting for " ++ what)
  | .failFastAbort stage what event =>
    some ("Aborted " ++ stage.name ++ " while waiting for " ++ what ++ ": " ++ event.display)
  | .resourceConflict kind name ns =>
    some (kind ++ " '" ++ name ++ "' already exists in namespace '" ++ ns ++ "'")
  | .notCreated kind name =>
    some (kind ++ " '" ++ name ++ "' has not been created, it cannot be waited on")
  | .lifecycle action reason => some ("Cannot " ++ action ++ " " ++ reason)
  | .manifest message => some ("Invalid product manifest: " ++ message)
  | .manifestRead path reason =>
    some ("Unable to read product manifest '" ++ path ++ "': " ++ reason)
  | .manifestParse => none
  | .manifestModel source => source.message?.map ("Unable to parse product manifest: " ++ ·)
  | .client action source => source.display?.map (fun t => "Unable to " ++ action ++ ": " ++ t)

/-- The causes below the error, outermost first, as far as their texts are known. -/
def causes : ProvisionError → List String
  | .configurationValue source => source.message?.toList ++ source.causes
  | .manifestRead _ reason => [reason]
  | .manifestModel source => source.message?.toList ++ source.causes
  | .client _ source => source.display?.toList ++ source.causes
  | _ => []

/-- The stage that timed out or failed fast. -/
def stage? : ProvisionError → Option Stage
  | .timedOut stage _ _ => some stage
  | .failFastAbort stage _ _ => some stage
  | _ => none

/-- Whether the error is a timeout. -/
def isTimedOut : ProvisionError → Bool
  | .timedOut .. => true
  | _ => false

/-- Whether the error is a fail-fast abort. -/
def isFailFast : ProvisionError → Bool
  | .failFastAbort .. => true
  | _ => false

/-- Whether the error is a configuration error. -/
def isConfiguration : ProvisionError → Bool
  | .configuration .. => true
  | .configurationValue .. => true
  | _ => false

end ProvisionError

end OlmProvision
