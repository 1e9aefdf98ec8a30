import OlmProvision.Command.Help
import OlmProvision.Command.Logging
import OlmProvision.Config.File
import OlmProvision.Provision.Manifest
import OlmProvision.Provision.Orchestrator
import OlmProvision.Yaml.Emit

/-
What the command line program does, from its arguments and surroundings to its exit.

Configuration comes from environment variables under `OLMSYS_`, then from the `--config` file.
`resolve` prints the descriptor of a product as YAML and needs no cluster. `run` and `teardown`
first set up a cluster client, from the `--kubeconfig` file, or else from the file `KUBECONFIG`
names, or else from `$HOME/.kube/config`; the file must be readable. Both then read the product
manifest and configure an orchestrator.

`run` subscribes, deploys, and scales when asked; unless `--keep` is given it then undeploys and
unsubscribes whether provisioning worked or not, logging a provisioning failure before cleaning
up. Cleaning up unsubscribes even when undeploying fails, logging that failure. The run fails
with the first of: the provisioning failure, the unsubscribing failure, the undeploying
failure. `teardown` adopts what a kept run left, then cleans up the same way.

A failure prints as the context it happened in, then `Caused by:` and the chain of causes,
numbered when there are several. Log records the filter lets through go to the error output
before it. Success exits with status 0, a failure with 1, and a command line the program does
not accept with 2.
-/
namespace OlmProvision.Command

/-- What an invocation of the program sees of its surroundings. -/
structure Surroundings where
  /-- The environment variables. -/
  vars : List (String × String)
  /-- The files of the working directory. -/
  files : FileTree
deriving Inhabited

/-- How an invocation ends: its exit status and what it printed. -/
structure Exit where
  status : Nat
  stdout : String
  stderr : String
deriving Repr, Inhabited

/-- The value of an environment variable. -/
def Surroundings.var? (s : Surroundings) (name : String) : Option String :=
  (s.vars.find? (·.1 == name)).map Prod.snd

/-- The prefix of the environment variables the program reads its configuration from. -/
def environmentPrefix : String := "OLMSYS_"

/-- A failure: what was being done, outermost first, then the error and its causes. -/
abbrev Failure := List String

/-- The failure of `e` while doing `context`. -/
def failure (context : String) (e : ProvisionError) : Failure :=
  context :: (e.message?.toList ++ e.causes)

/-- `text` with every line but the first indented by `pad`. -/
def indentRest (pad text : String) : String := ("\n" ++ pad).intercalate (text.splitOn "\n")

/-- Causes numbered from `i`, each on a line of its own. -/
def numberedCauses : Nat → List String → String
  | _, [] => ""
  | i, c :: cs =>
    let number := toString i
    "\n" ++ String.ofList (List.replicate (5 - number.length) ' ') ++ number ++ ": " ++
      indentRest "       " c ++ numberedCauses (i + 1) cs

/-- A failure as the program prints it. -/
def Failure.render : Failure → String
  | [] => ""
  | [e] => e
  | [e, c] => e ++ "\n\nCaused by:\n    " ++ indentRest "    " c
  | e :: cs => e ++ "\n\nCaused by:" ++ numberedCauses 0 cs

/-- The descriptor as the entries of its YAML document, in field order. -/
def descriptorEntries (d : OperatorDescriptor) : List (String × String) :=
  [("packageManifestId", d.packageManifestId), ("catalogSourceName", d.catalogSourceName),
   ("catalogSourceNamespace", d.catalogSourceNamespace)] ++
  ([("indexImage", d.indexImage), ("channel", d.channel), ("startingCsv", d.startingCsv)].filterMap
    (fun (k, v) => v.map (fun s => (k, s)))) ++
  [("installPlanApproval", d.installPlanApproval.name), ("distribution", d.distribution.name)]

/-- The program's configuration: the environment, then the file at `path` when one is given. -/
def loadConfig (s : Surroundings) (path : Option String) : Except Failure ConfigSource :=
  let env := ConfigSource.env environmentPrefix s.vars
  match path with
  | none => .ok (.layered [env])
  | some p =>
    match ConfigSource.fromPath s.files p with
    | .ok file => .ok (.layered [env, file])
    | .error e =>
      .error (("Unable to read configuration from '" ++ p ++ "'") :: (e.message?.toList ++ e.causes))

/-- The kubeconfig used when none is named on the command line. -/
def defaultKubeconfig (s : Surroundings) : String :=
  match s.var? "KUBECONFIG" with
  | some path => path
  | none =>
    let home := (s.var? "HOME").getD ""
    if home.isEmpty then ".kube/config"
    else if home.endsWith "/" then home ++ ".kube/config"
    else home ++ "/.kube/config"

/-- Set up the cluster client: its kubeconfig must be readable. -/
def connect (s : Surroundings) (kubeconfig : Option String) : Except Failure Unit :=
  match kubeconfig with
  | some path =>
    match s.files.read path with
    | .ok _ => .ok ()
    | .error e =>
      let err := ClientError.kubeconfig path e.message
      .error (("Unable to create cluster client from path '" ++ Text.quote path ++ "'") ::
        (err.display?.toList ++ err.causes))
  | none =>
    let path := defaultKubeconfig s
    match s.files.read path with
    | .ok _ => .ok ()
    | .error e =>
      let err := ClientError.initialization path e.message
      .error ("Unable to create default cluster client" :: (err.display?.toList ++ err.causes))

/-- Run an orchestrator operation, keeping the state it reached. -/
def attempt {σ α : Type} (t : Tracked Orchestrator σ α) (o : Orchestrator) :
    Step σ (Except ProvisionError α × Orchestrator) :=
  t.run.run o

/-- Subscribe, deploy, and scale to `scale` replicas when asked. -/
def provision {σ : Type} (p : Platform σ) (scale : Option Int) (o : Orchestrator) :
    Step σ (Except Failure Unit × Orchestrator) := do
  let (r, o) ← attempt (Orchestrator.subscribe p) o
  match r with
  | .error e => return (.error (failure "Unable to subscribe to operator" e), o)
  | .ok () =>
    let (r, o) ← attempt (Orchestrator.deploy p) o
    match r with
    | .error e => return (.error (failure "Unable to deploy product" e), o)
    | .ok () =>
      Step.log .command .info "Product is ready"
      match scale with
      | none => return (.ok (), o)
      | some n =>
        let (r, o) ← attempt (Orchestrator.scale p n true) o
        match r with
        | .error e =>
          return (.error (failure ("Unable to scale product to " ++ toString n ++ " replicas") e), o)
        | .ok () =>
          Step.log .command .info ("Product is scaled to " ++ toString n ++ " replicas")
          return (.ok (), o)

/-- Undeploy, then unsubscribe even when undeploying failed. -/
def cleanup {σ : Type} (p : Platform σ) (o : Orchestrator) :
    Step σ (Except Failure Unit × Orchestrator) := do
  let (u, o) ← attempt (Orchestrator.undeploy p) o
  let undeployed : Except Failure Unit := match u with
    | .ok () => .ok ()
    | .error e => .error (failure "Unable to undeploy product (some resources may be left behind)" e)
  match undeployed with
  | .error f => Step.log .command .error f.render
  | .ok () => pure ()
  let (r, o) ← attempt (Orchestrator.unsubscribe p) o
  match r with
  | .error e => return (.error (failure "Unable to remove operator subscription" e), o)
  | .ok () => return (undeployed, o)

/-- An orchestrator for the product in the manifest at `manifest`, configured. -/
def configured {σ : Type} (s : Surroundings) (config : ConfigSource) (manifest : String) :
    Step σ (Except Failure Orchestrator) := do
  match ProductManifest.fromPath s.files manifest with
  | .error e => return .error (failure ("Unable to read product manifest '" ++ manifest ++ "'") e)
  | .ok m =>
    let (r, o) ← attempt (Orchestrator.configure config) (Orchestrator.new m.adapter)
    match r with
    | .error e => return .error (failure "Unable to configure provisioner" e)
    | .ok _ => return .ok o

/-- The `run` subcommand. -/
def runProduct {σ : Type} (p : Platform σ) (s : Surroundings) (config : ConfigSource)
    (manifest : String) (scale : Option Int) (keep : Bool) : Step σ (Except Failure String) := do
  match ← configured s config manifest with
  | .error f => return .error f
  | .ok o =>
    let (provisioned, o) ← provision p scale o
    if keep then
      Orchestrator.dismiss o
      return provisioned.map (fun _ => "")
    else
      match provisioned with
      | .error f => Step.log .command .error ("Provisioning failed, cleaning up: " ++ f.render)
      | .ok () => pure ()
      let (cleaned, o) ← cleanup p o
      Orchestrator.dismiss o
      match provisioned, cleaned with
      | .error f, _ => return .error f
      | .ok (), .error f => return .error f
      | .ok (), .ok () => return .ok "Product was provisioned and removed successfully.\n"

/-- The `teardown` subcommand. -/
def teardownProduct {σ : Type} (p : Platform σ) (s : Surroundings) (config : ConfigSource)
    (manifest : String) : Step σ (Except Failure String) := do
  match ← configured s config manifest with
  | .error f => return .error f
  | .ok o =>
    let (r, o) ← attempt (Orchestrator.adopt p) o
    match r with
    | .error e => return .error (failure "Unable to find existing resources" e)
    | .ok () =>
      let (cleaned, o) ← cleanup p o
      Orchestrator.dismiss o
      return cleaned.map (fun _ => "Product and operator subscription were removed.\n")

/-- Carry out accepted arguments: what the program prints on success, or its failure. -/
def perform {σ : Type} (p : Platform σ) (s : Surroundings) (a : Arguments) :
    Step σ (Except Failure String) := do
  match loadConfig s a.config with
  | .error f => return .error f
  | .ok config =>
    match a.command with
    | .resolve product =>
      match ← (resolveDescriptor config product).run with
      | .ok d => return .ok (Yaml.mappingDocument (descriptorEntries d))
      | .error e => return .error (failure ("Unable to resolve operator for '" ++ product ++ "'") e)
    | .run manifest scale keep =>
      match connect s a.kubeconfig with
      | .error f => return .error f
      | .ok () => runProduct p s config manifest scale keep
    | .teardown manifest =>
      match connect s a.kubeconfig with
      | .error f => return .error f
      | .ok () => teardownProduct p s config manifest

/-- Run the program on `args`, with `p` as its cluster once a client is set up. -/
def execute {σ : Type} (p : Platform σ) (s : Surroundings) (args : List String) : Step σ Exit := do
  match parse args with
  | .usageError => return ⟨2, "", usageErrorText⟩
  | .version => return ⟨0, versionText, ""⟩
  | .help sub => return ⟨0, helpText sub, ""⟩
  | .accepted a =>
    let (filter, warnings) := match s.var? "RUST_LOG" with
      | some spec => readSpec spec
      | none => (⟨levelDirectives a.logLevel, none⟩, [])
    let before := (← get).logs.length
    let result ← perform p s a
    let w ← get
    let records := ((w.logs.take (w.logs.length - before)).reverse).filter
      filter.prints
    let printed := String.join (warnings.map (· ++ "\n")) ++
      String.join (records.map (formatRecord (ObjectMeta.timeText w.now)))
    match result with
    | .ok out => return ⟨0, out, printed⟩
    | .error f => return ⟨1, "", printed ++ f.render ++ "\n"⟩

end OlmProvision.Command
