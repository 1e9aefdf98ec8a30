import OlmProvision.Command.Run
import OlmProvision.Session.Cluster
import Std.Time.DateTime.Timestamp

/-
The command line program.

The program reads its environment and the files it may need (the configuration file, the
product manifest and the kubeconfig its arguments and environment name), then runs the
command. Its cluster client reaches the cluster over a network; calls that cannot connect fail
with the connection error.
-/
namespace OlmProvision.Command

/-- The environment variables of the process, from the kernel's record of them. -/
def readEnvironment : IO (List (String × String)) := do
  try
    let text ← IO.FS.readFile "/proc/self/environ"
    return (text.splitOn "\x00").filterMap fun entry =>
      match entry.splitOn "=" with
      | name :: value :: rest => some (name, "=".intercalate (value :: rest))
      | _ => none
  catch _ =>
    let names := ["RUST_LOG", "KUBECONFIG", "HOME"]
    names.filterMapM fun n => do return (← IO.getEnv n).map (n, ·)

/-- The entry of `path` in the working directory: its text, `none` for something that is not a
readable file, or nothing when there is no such path. -/
def readEntry (path : String) : IO (Option (String × Option String)) := do
  try
    return some (path, some (← IO.FS.readFile path))
  catch e =>
    match e with
    | .noFileOrDirectory .. => return none
    | _ => return some (path, none)

/-- The paths the program may read for `args` in the environment `vars`. -/
def wantedPaths (args : List String) (vars : List (String × String)) : List String :=
  match parse args with
  | .accepted a =>
    let manifest := match a.command with
      | .run m _ _ => [m]
      | .teardown m => [m]
      | .resolve _ => []
    let kubeconfig := a.kubeconfig.getD (defaultKubeconfig ⟨vars, FileTree.empty⟩)
    a.config.toList ++ manifest ++ [kubeconfig]
  | _ => []

end OlmProvision.Command

/-- Run the program and exit with its status. -/
def main (args : List String) : IO UInt32 := do
  let vars ← OlmProvision.Command.readEnvironment
  let entries ← (OlmProvision.Command.wantedPaths args vars).filterMapM OlmProvision.Command.readEntry
  let now := OlmProvision.Timestamp.ofNanos (← Std.Time.Timestamp.now).toNanosecondsSinceUnixEpoch.val
  let world : OlmProvision.World Unit :=
    { cluster := (), elapsed := ⟨0⟩, logs := [], start := now.truncSecs, now := now }
  let run := OlmProvision.Command.execute OlmProvision.Platform.unreachable ⟨vars, ⟨entries⟩⟩ args
  let (exit, _) := Id.run (run.run world)
  IO.print exit.stdout
  IO.eprint exit.stderr
  return exit.status.toUInt32
