import OlmProvision.Numeric.Binary64
import OlmProvision.Numeric.Decimal
import OlmProvision.Json.Value
import OlmProvision.Json.Text
import OlmProvision.Text.Blank
import OlmProvision.Text.Integer
import OlmProvision.Text.Duration
import OlmProvision.Text.Printable
import OlmProvision.Text.Quoted
import OlmProvision.Yaml.Node
import OlmProvision.Yaml.Scanner
import OlmProvision.Yaml.Parser
import OlmProvision.Yaml.Reader
import OlmProvision.Decode.Content
import OlmProvision.Decode.Input
import OlmProvision.Model.Error
import OlmProvision.Model.Descriptor
import OlmProvision.Config.Source
import OlmProvision.Model.Time
import OlmProvision.Json.Pointer
import OlmProvision.Model.Object
import OlmProvision.Model.Event
import OlmProvision.Model.Readiness
import OlmProvision.Model.Handle
import OlmProvision.Client.Status
import OlmProvision.Client.Error
import OlmProvision.Provision.Error
import OlmProvision.Log
import OlmProvision.Client.Platform
import OlmProvision.Model.Olm
import OlmProvision.Provision.Catalog
import OlmProvision.Provision.Wait
import OlmProvision.Provision.FailFast
import OlmProvision.Cluster.Table
import OlmProvision.Cluster.Simulated
import OlmProvision.Provision.Lifecycle
import OlmProvision.Files.Tree
import OlmProvision.Config.File
import OlmProvision.Provision.Adapter
import OlmProvision.Provision.Manifest
import OlmProvision.Client.Typed
import OlmProvision.Provision.Subscription
import OlmProvision.Provision.Orchestrator
import OlmProvision.Session.Cluster
import OlmProvision.Session.Step
import OlmProvision.Session.Orchestrate
import OlmProvision.Session.Lifecycle
import OlmProvision.Session.Subscription
import OlmProvision.Model.Schema
import OlmProvision.Text.Mask
import OlmProvision.Yaml.Emit
import OlmProvision.Command.Arguments
import OlmProvision.Command.Help
import OlmProvision.Pattern.Syntax
import OlmProvision.Pattern.Parse
import OlmProvision.Pattern.Ranges
import OlmProvision.Pattern.Translate
import OlmProvision.Pattern.Match
import OlmProvision.Pattern.Compile
import OlmProvision.Command.Logging
import OlmProvision.Command.Run
import OlmProvision.Main
import OlmProvision.Proofs.PollSchedule
import OlmProvision.Proofs.ProgramLogic
import OlmProvision.Proofs.Transcript
import OlmProvision.Proofs.SubscriptionState
import OlmProvision.Proofs.ResourceCalls
import OlmProvision.Proofs.OrchestratorSteps
import OlmProvision.Proofs.TrackingInvariant
import OlmProvision.Proofs.TeardownOrder
import OlmProvision.Proofs.Tables
import OlmProvision.Proofs.ResourceVersions
import OlmProvision.Proofs.ConcurrentWrites
import OlmProvision.Proofs.ClusterFrames
import OlmProvision.Proofs.TeardownCleanup
import OlmProvision.Proofs.FatalEvents
import OlmProvision.Proofs.SimulatedPods
import OlmProvision.Proofs.UnsubscribeRuns
import OlmProvision.Proofs.DocumentForms
import OlmProvision.Proofs.OlmDocuments
import OlmProvision.Proofs.OperatorEnvironment
import OlmProvision.Proofs.ReadinessChecks
import OlmProvision.Proofs.WorkloadPods
import OlmProvision.Proofs.WorkloadRuns
import OlmProvision.Proofs.SimulatedInstall
import OlmProvision.Proofs.SubscribeRuns
import OlmProvision.Proofs.PointerWrites
import OlmProvision.Proofs.DeploymentEnvironment
import OlmProvision.Proofs.CatalogResolution
import OlmProvision.Proofs.RefusedCalls
import OlmProvision.Proofs.ConfigLayers
import OlmProvision.Proofs.FlattenedKeys
import OlmProvision.Proofs.WaitTimings
import OlmProvision.Proofs.ManifestResources
import OlmProvision.Proofs.SubscribeApproval
import OlmProvision.Proofs.SubscribeEnvironment
import OlmProvision.Proofs.MergePatches
