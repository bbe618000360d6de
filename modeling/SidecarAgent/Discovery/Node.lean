/-!
# The identity of an agent

An agent tells the control plane which pod it stands beside.  It learns this once, at start, from
its environment.
-/

namespace SidecarAgent.Discovery

/-- The pod that an agent stands beside. -/
structure Node where
  podName : String
  namespaceName : String
  instanceIp : String
  deriving DecidableEq, Repr

/-- Why an agent cannot tell who it is: no address is given and none can be detected. -/
inductive IdentityError where
  | noInstanceIp
  deriving DecidableEq, Repr

/-- The wording of an identity error. -/
def IdentityError.message : IdentityError → String
  | noInstanceIp => "INSTANCE_IP is not set and no local address could be detected"

namespace Node

/-- A variable that is set to more than the empty text. -/
def setting? (environment : String → Option String) (name : String) : Option String :=
  (environment name).filter fun v => v ≠ ""

/-- The identity that an environment gives; `detected` is the machine's own address, used where the
environment names none. -/
def ofEnvironment (environment : String → Option String) (detected : Option String) :
    Except IdentityError Node :=
  let podName := (setting? environment "POD_NAME").getD "pod_name_default"
  let namespaceName :=
    ((setting? environment "POD_NAMESPACE").or (setting? environment "NAMESPACE")).getD "default"
  match (setting? environment "INSTANCE_IP").or detected with
  | some ip => .ok { podName := podName, namespaceName := namespaceName, instanceIp := ip }
  | none => .error .noInstanceIp

/-- The name that the control plane knows an agent by: role, address, pod and namespace. -/
def id (node : Node) : String :=
  String.intercalate "~" ["sidecar", node.instanceIp, node.podName, node.namespaceName]

/-- The cluster that an agent reports as its own, which is its pod. -/
def cluster (node : Node) : String := node.podName

end Node

end SidecarAgent.Discovery
