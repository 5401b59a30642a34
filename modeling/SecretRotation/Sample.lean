import SecretRotation.Cluster.Encoding
import SecretRotation.Json.Writer
import SecretRotation.Stamp

/-!
# Sample objects

Objects to try the operator on: a managed secret, workloads with and without a use for it, and the
documents with which an API server reports failures.

## Main definitions

* `Sample.managedSecret`, `Sample.optedIn`, `Sample.plainPod`, `Sample.envFromPod`.
* `Sample.workload`, `Sample.deployment?`.
* `Sample.status`, `Sample.notFound`.
-/

namespace SecretRotation.Sample

/-- A managed secret at a version. -/
def managedSecret (ns name version : String) : Secret where
  metadata := {
    name := some name
    ns := some ns
    annotations := some (OrderedMap.empty.insert (stampKey name) version) }
  data := some (OrderedMap.empty.insert "password" ⟨"aHVudGVyMg==", by decide⟩)

/-- The annotations of a workload that takes part. -/
def optedIn : Json := .obj [(optInKey, .str "true")]

/-- A pod spec with one container, which has one further member. -/
def pod (name : String) (value : Json) : Json :=
  .obj [("containers", .arr [.obj [(name, value), ("image", .str "nginx"), ("name", .str "app")]])]

/-- A pod spec that refers to no secret. -/
def plainPod : Json :=
  pod "env" (.arr [.obj [("name", .str "MODE"), ("value", .str "production")]])

/-- A pod spec with all keys of a secret in the environment. -/
def envFromPod (secretName : String) : Json :=
  pod "envFrom" (.arr [.obj [("secretRef", .obj [("name", .str secretName)])]])

/-- The document of a workload of a kind with given annotations, annotations of its template, and
pod spec. -/
def workload (kind ns name : String) (annotations templateAnnotations podSpec : Json) : Json :=
  .obj [
    ("apiVersion", .str Kind.apiVersion),
    ("kind", .str kind),
    ("metadata", .obj [("annotations", annotations), ("name", .str name), ("namespace", .str ns)]),
    ("spec", .obj [
      ("selector", .obj [("matchLabels", .obj [("app", .str name)])]),
      ("serviceName", .str name),
      ("template", .obj [
        ("metadata", .obj [
          ("annotations", templateAnnotations),
          ("labels", .obj [("app", .str name)])]),
        ("spec", podSpec)])])]

/-- A deployment with given annotations and pod spec, if they are well formed. -/
def deployment? (ns name : String) (annotations podSpec : Json) : Option (Workload .deployment) :=
  (Workload.codec .deployment).read
    (workload Kind.deployment.name ns name annotations (.obj []) podSpec)

/-- The document with which an API server reports a failure. -/
def status (code : Nat) (reason message : String) : Json :=
  .obj [
    ("apiVersion", .str "v1"),
    ("code", .int code),
    ("kind", .str "Status"),
    ("message", .str message),
    ("reason", .str reason),
    ("status", .str "Failure")]

/-- The document with which an API server reports that something does not exist. -/
def notFound (resource name : String) : Json :=
  status 404 "NotFound" (resource ++ " \"" ++ name ++ "\" not found")

end SecretRotation.Sample
