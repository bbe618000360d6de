import SidecarAgent.Discovery.Dialogue
import SidecarAgent.Document.Data

/-!
# Destination rules

In a Kubernetes mesh, destination rules say which labels make a subset of a service: each rule is
about one host, and names the subsets of it.  A look-up lists the rules of a namespace and takes the
labels from the first rule about the service that has the subset.
-/

namespace SidecarAgent.Kubernetes

open Discovery (SubsetQuery)
open Document (Data)

/-- A named subset of a host, with the labels that its instances carry. -/
structure LabelledSubset where
  name : String
  labels : Tags

/-- What a rule says: the host it is about, and the subsets of the host. -/
structure DestinationRule where
  host : String
  subsets : List LabelledSubset

/-! ## Reading -/

/-- Reads a subset. -/
def LabelledSubset.read? (d : Data) : Option LabelledSubset := do
  match ← Data.fields? ["name", "labels"] d with
  | [name, labels] =>
    some
      ⟨← Data.orElse? Data.text? "" name, ← Data.orElse? (Data.mapOf? Data.text?) ∅ labels⟩
  | _ => none

/-- Reads a rule from its specification. -/
def DestinationRule.read? (d : Data) : Option DestinationRule := do
  match ← Data.fields? ["host", "subsets"] d with
  | [host, subsets] =>
    some
      ⟨← Data.orElse? Data.text? "" host,
        ← Data.orElse? (Data.listOf? LabelledSubset.read?) [] subsets⟩
  | _ => none

/-- The rules among some listed objects.  An object without a readable specification is no rule. -/
def rulesAmong (objects : List Data) : List DestinationRule :=
  objects.filterMap fun d => (d.get? "spec").bind DestinationRule.read?

/-! ## Looking up -/

/-- A host is a service of a namespace when its first label is the service, and its second, if it
has one, the namespace. -/
def hostMatches (host namespaceName service : String) : Bool :=
  match host.toList.splitOn '.' with
  | [s] => s = service.toList
  | s :: n :: _ => s = service.toList && n = namespaceName.toList
  | [] => false

/-- The labels of a subset: those in the first rule that is about the service and has the subset, or
none. -/
def labelsOf (rules : List DestinationRule) (query : SubsetQuery) : Tags :=
  let about := rules.filter fun r => hostMatches r.host query.namespaceName query.service
  let found := about.findSome? fun r => r.subsets.find? fun s => s.name = query.subset
  (found.map LabelledSubset.labels).getD ∅

/-! ## Listing -/

/-- What the cluster answers to a list call: a status, and the items listed. -/
structure ListReply where
  status : Int
  items : Data

/-- The status of a call that succeeded. -/
def successStatus : Int := 200

/-- A character that may stand in the path of a request. -/
def isPathChar (c : Char) : Bool :=
  ' ' < c && c ≠ '<' && c ≠ '>' && c ≠ '\x60'

/-- The path under which the rules of a namespace are listed.  A namespace that cannot stand in a
path has none. -/
def listPath? (namespaceName : String) : Option String :=
  if namespaceName.toList.all isPathChar then
    some ("/apis/networking.istio.io/v1alpha3/namespaces/" ++ namespaceName ++ "/destinationrules")
  else none

/-- An object's own description is a record, whose name is a text. -/
def isMetadata (d : Data) : Bool :=
  d.isRecord &&
    match d.get? "name" with
    | some name => (Data.optional? Data.text? name).isSome
    | none => true

/-- An object is a record.  It may do without a description of itself. -/
def isObject (d : Data) : Bool :=
  d.isRecord &&
    match d.get? "metadata" with
    | some m => isMetadata m
    | none => true

/-- The objects of a reply, if the call succeeded. -/
def ListReply.objects? (reply : ListReply) : Option (List Data) :=
  if reply.status = successStatus then
    match reply.items with
    | .list items => if items.all isObject then some items else none
    | _ => none
  else none

/-- The labels of a subset by a reply. -/
def ListReply.labels? (reply : ListReply) (query : SubsetQuery) : Option Tags :=
  reply.objects?.map fun objects => labelsOf (rulesAmong objects) query

end SidecarAgent.Kubernetes
