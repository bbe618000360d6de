/-!
# Names of managed clusters

The control plane encodes in a cluster's name where its traffic goes:

    outbound|9080|v2|reviews.default.svc.cluster.local

that is direction, port, subset and fully qualified domain name.  The subset may be empty, and a
name of three segments leaves it out.  Whatever does not look like this names a cluster that is
somebody else's, and reads as nothing.
-/

namespace SidecarAgent.Discovery

/-- Which way a cluster's traffic goes. -/
inductive Direction where
  | inbound
  | outbound
  deriving DecidableEq, Repr

namespace Direction

/-- The written form of a direction. -/
def text : Direction → String
  | inbound => "inbound"
  | outbound => "outbound"

/-- The direction that a text writes, to the letter. -/
def ofText? (s : String) : Option Direction :=
  if s = "inbound" then some inbound
  else if s = "outbound" then some outbound
  else none

/-- The word for a direction reads back as the direction. -/
@[simp] theorem ofText?_text (d : Direction) : ofText? d.text = some d := by cases d <;> decide

end Direction

/-- The parts of a managed cluster's name.  The service and its namespace are the first two labels
of the domain name. -/
structure ResourceName where
  direction : Direction
  port : String
  subset : String
  service : String
  namespaceName : String
  fqdn : String
  deriving DecidableEq, Repr

namespace ResourceName

/-- Puts the four segments of a name together, if the direction is known, the port is not empty, and
the domain name begins with two labels that are not empty. -/
def ofSegments? (direction port subset fqdn : List Char) : Option ResourceName :=
  match Direction.ofText? (String.ofList direction), fqdn.splitOn '.' with
  | some d, service :: space :: _ =>
    if port.isEmpty || service.isEmpty || space.isEmpty then none
    else some {
      direction := d
      port := String.ofList port
      subset := String.ofList subset
      service := String.ofList service
      namespaceName := String.ofList space
      fqdn := String.ofList fqdn }
  | _, _ => none

/-- Reads a cluster's name, in its form of four segments or of three. -/
def parse? (text : String) : Option ResourceName :=
  match text.toList.splitOn '|' with
  | [direction, port, subset, fqdn] => ofSegments? direction port subset fqdn
  | [direction, port, fqdn] => ofSegments? direction port [] fqdn
  | _ => none

/-- A name with a subset stands for a tagged part of a service. -/
def hasSubset (name : ResourceName) : Bool := name.subset ≠ ""

/-- The written form of a name, always of four segments. -/
def text (name : ResourceName) : String :=
  String.intercalate "|" [name.direction.text, name.port, name.subset, name.fqdn]

end ResourceName

end SidecarAgent.Discovery
