import OlmProvision.Client.Status
import OlmProvision.Text.Quoted

/-
Errors of cluster clients.

A client error is a failed conversion of an object between its typed and generic forms, a
failed client set-up, an unreadable kubeconfig, a failed API call, or an error that carries
an HTTP status directly (what an in-memory platform reports). A failed API call carries the
API server's error answer (status, message, reason and code), an answer that could not be
decoded, or another failure described by its text. `statusCode?` is the HTTP status an error
carries; `not found` and `conflict` are the errors in-memory platforms use.
-/
namespace OlmProvision

/-- The chain of causes of a connection attempt to a network that cannot be reached,
outermost first. -/
def unreachableCauses : List String :=
  ["HyperError: error trying to connect: tcp connect error: Network is unreachable (os error 101)",
   "error trying to connect: tcp connect error: Network is unreachable (os error 101)",
   "tcp connect error: Network is unreachable (os error 101)",
   "Network is unreachable (os error 101)"]

/-- A failure of the API client below a platform call. -/
inductive ApiFailure where
  /-- The API server answered with an error document. -/
  | api (status message reason : String) (code : Nat)
  /-- The answer could not be decoded. -/
  | undecodable
  /-- Another failure, by its text. -/
  | other (text : String)
  /-- The API server's network could not be reached. -/
  | unreachable
deriving Repr, Inhabited

namespace ApiFailure

/-- The text of a failure; `none` when it depends on a decoder's diagnosis. -/
def display? : ApiFailure → Option String
  | .api status message reason code =>
    some ("ApiError: " ++ message ++ ": " ++ reason ++ " (ErrorResponse \x7b status: " ++
      Text.quote status ++ ", message: " ++ Text.quote message ++ ", reason: " ++
      Text.quote reason ++ ", code: " ++ toString code ++ " \x7d)")
  | .undecodable => none
  | .other text => some text
  | .unreachable => unreachableCauses.head?

/-- The causes below the failure, outermost first. -/
def sources : ApiFailure → List String
  | .unreachable => unreachableCauses.drop 1
  | _ => []

/-- The HTTP status of a failure: the code of an error answer, when it is a status code. -/
def statusCode? : ApiFailure → Option StatusCode
  | .api _ _ _ code => StatusCode.ofNat? code
  | _ => none

end ApiFailure

/-- The text of a kubeconfig at `path` that could not be read for `reason`. -/
def kubeconfigUnreadable (path reason : String) : String :=
  "failed to read kubeconfig from '" ++ Text.quote path ++ "': " ++ reason

/-- The text of a configuration search that found neither a cluster environment nor a readable
kubeconfig at `path`. -/
def inferenceFailure (path reason : String) : String :=
  "failed to infer config: in-cluster: (failed to read an incluster environment variable: " ++
    "environment variable not found), kubeconfig: (" ++ kubeconfigUnreadable path reason ++ ")"

/-- An error of a cluster client. -/
inductive ClientError where
  /-- An object could not be converted to or from the typed form `what`. -/
  | serde (what : String)
  /-- No cluster configuration was found: the program does not run inside a cluster, and the
  kubeconfig at `path` could not be read for `reason`. -/
  | initialization (path reason : String)
  /-- The kubeconfig at `path` could not be read for `reason`. -/
  | kubeconfig (path reason : String)
  /-- An API call failed. -/
  | apiCall (method what : String) (failure : ApiFailure)
  /-- A platform call failed with an HTTP status. -/
  | status (method what : String) (code : StatusCode) (message : String)
deriving Repr, Inhabited

namespace ClientError

/-- A not-found error of `method` on `what`. -/
def notFound (method what : String) : ClientError := .status method what StatusCode.notFound "not found"

/-- A conflict error of `method` on `what`. -/
def conflict (method what : String) : ClientError :=
  .status method what StatusCode.conflict "already exists"

/-- The text of an error; `none` when it depends on a decoder's diagnosis. -/
def display? : ClientError → Option String
  | .serde _ => none
  | .initialization path reason =>
    some ("Error initializing the Kubernetes client: Failed to infer configuration: " ++
      inferenceFailure path reason)
  | .kubeconfig path reason => some ("Unable to read kubeconfig: " ++ kubeconfigUnreadable path reason)
  | .apiCall method what failure =>
    failure.display?.map (fun t => "Unable to " ++ method ++ " " ++ what ++ ": " ++ t)
  | .status method what code message =>
    some ("Unable to " ++ method ++ " " ++ what ++ ": " ++ message ++ " (" ++ code.display ++ ")")

/-- The causes below the error, outermost first, as far as their texts are known. -/
def causes : ClientError → List String
  | .serde _ => []
  | .initialization path reason =>
    ["Failed to infer configuration: " ++ inferenceFailure path reason, inferenceFailure path reason,
     kubeconfigUnreadable path reason, reason]
  | .kubeconfig path reason => [kubeconfigUnreadable path reason, reason]
  | .apiCall _ _ failure => failure.display?.toList ++ failure.sources
  | .status .. => []

/-- The HTTP status an error carries. -/
def statusCode? : ClientError → Option StatusCode
  | .apiCall _ _ failure => failure.statusCode?
  | .status _ _ code _ => some code
  | _ => none

/-- Whether the error carries `code`. -/
def hasStatus (e : ClientError) (code : Nat) : Bool :=
  match e.statusCode? with
  | some s => s.code == code
  | none => false

/-- Whether the error is a not-found error. -/
def isNotFound (e : ClientError) : Bool := e.hasStatus 404

/-- Whether the error is a conflict error. -/
def isConflict (e : ClientError) : Bool := e.hasStatus 409

end ClientError

/-- Turn a not-found error into an absent value; other errors stay errors. -/
def allowNotFound {α : Type} : Except ClientError α → Except ClientError (Option α)
  | .ok v => .ok (some v)
  | .error e => if e.isNotFound then .ok none else .error e

end OlmProvision
