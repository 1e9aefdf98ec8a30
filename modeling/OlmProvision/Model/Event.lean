import OlmProvision.Model.Object

/-
Cluster events: the part of a Kubernetes event that failure detection looks at.

An event read from the cluster takes its time from `lastTimestamp`, then `eventTime`, then
`firstTimestamp`, then the metadata's creation time; an event with none of them is dropped,
since it cannot be ordered against a baseline. Its severity is `Warning` when its type is
exactly `Warning` and `Normal` otherwise. Its id is the metadata's uid, else its name, else
empty. Every field of the event document must have its type, even the ones not used.
-/
namespace OlmProvision

/-- The type of an event. -/
inductive EventSeverity where
  | normal
  | warning
deriving DecidableEq, Repr, Inhabited

namespace EventSeverity

/-- The severities by name. -/
def table : List (String × EventSeverity) := [("Normal", .normal), ("Warning", .warning)]

/-- The name of a severity. -/
def name : EventSeverity → String
  | .normal => "Normal"
  | .warning => "Warning"

end EventSeverity

/-- An event as failure detection sees it. -/
structure ClusterEvent where
  id : String
  namespaceName : String
  timestamp : Timestamp
  severity : EventSeverity
  reason : String
  message : String
  involvedKind : String
  involvedName : String
deriving DecidableEq, Repr, Inhabited

namespace ClusterEvent

/-- The one-line text of an event:
`<severity> event '<reason>' for <kind> '<name>' at <time>: <message>`. -/
def display (e : ClusterEvent) : String :=
  e.severity.name ++ " event '" ++ e.reason ++ "' for " ++ e.involvedKind ++ " '" ++
    e.involvedName ++ "' at " ++ e.timestamp.toRfc3339 ++ ": " ++ e.message

/-- The fields of an event other than its time, as a document. -/
def fieldsJson (e : ClusterEvent) : List (String × Json) :=
  [("id", .str e.id), ("namespace", .str e.namespaceName), ("severity", .str e.severity.name),
   ("reason", .str e.reason), ("message", .str e.message), ("involved_kind", .str e.involvedKind),
   ("involved_name", .str e.involvedName)]

/-- A reference to another object, as an event names it. -/
structure Reference where
  kind : Option String
  name : Option String

/-- Decode an object reference. -/
def decodeReference (i : Input) : Decoded Reference := do
  let es ← i.entries
  let es ← es.mapM (fun (k, v) => do
    let key ← k.string
    return (key, v))
  let strOf (name : String) : Decoded (Option String) :=
    ObjectMeta.opt es name Input.string
  for name in ["apiVersion", "fieldPath", "namespace", "resourceVersion", "uid"] do
    let _ ← strOf name
  return { kind := ← strOf "kind", name := ← strOf "name" }

/-- A time with microseconds, as an RFC 3339 text. -/
def decodeTime (i : Input) : Decoded Timestamp := ObjectMeta.decodeTime i

/-- Read a core event document; `none` when it carries no time. -/
def fromK8s (i : Input) : Decoded (Option ClusterEvent) := do
  let es ← i.entries
  let es ← es.mapM (fun (k, v) => do
    let key ← k.string
    return (key, v))
  let opt {α : Type} (name : String) (dec : Input → Decoded α) : Decoded (Option α) :=
    ObjectMeta.opt es name dec
  let checkString (name : String) (expected : String) : Decoded Unit := do
    match ← opt name Input.string with
    | some v => if v == expected then return () else decodeFail ("invalid value for " ++ name)
    | none => return ()
  checkString "apiVersion" "v1"
  checkString "kind" "Event"
  for name in ["action", "reportingComponent", "reportingInstance"] do
    let _ ← opt name Input.string
  let _ ← opt "count" Input.i32
  let _ ← opt "related" decodeReference
  let _ ← opt "series" Input.toJson
  let _ ← opt "source" Input.toJson
  let metadata ← (opt "metadata" ObjectMeta.decode).map (·.getD {})
  let involved ← (opt "involvedObject" decodeReference).map (·.getD ⟨none, none⟩)
  let lastTimestamp ← opt "lastTimestamp" decodeTime
  let eventTime ← opt "eventTime" decodeTime
  let firstTimestamp ← opt "firstTimestamp" decodeTime
  let reason ← opt "reason" Input.string
  let message ← opt "message" Input.string
  let type ← opt "type" Input.string
  let time := lastTimestamp <|> eventTime <|> firstTimestamp <|> metadata.creationTimestamp
  return time.map (fun t => {
    id := (metadata.uid <|> metadata.name).getD ""
    namespaceName := metadata.namespaceName.getD ""
    timestamp := t
    severity := if type == some "Warning" then .warning else .normal
    reason := reason.getD ""
    message := message.getD ""
    involvedKind := involved.kind.getD ""
    involvedName := involved.name.getD "" })

end ClusterEvent

end OlmProvision
