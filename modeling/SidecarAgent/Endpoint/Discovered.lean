import SidecarAgent.Config.Value
import SidecarAgent.Discovery.Dialogue

/-!
# Endpoint subsets from the control plane

Every cluster whose name has a subset is a subset of its service, published under the cluster's
name.  A subset is never published without its tags: where they cannot be looked up, the cluster
keeps what the snapshot before had for it.
-/

namespace SidecarAgent.Endpoint

open Config (Snapshot)
open Discovery (Cluster DiscoveryError Dialogue LoadAssignment ResourceName SubsetQuery)
open Telemetry (Note)

/-- The name of the source of discovered subsets. -/
def discoveredSourceName : String := "EndpointSubsetSource"

/-- The priority of the source of discovered subsets. -/
def discoveredSourcePriority : Int := 8

/-- The name of a cluster that is a subset of a service. -/
def subsetName? (cluster : String) : Option ResourceName :=
  (ResourceName.parse? cluster).filter ResourceName.hasSubset

/-- The question for the tags of a cluster's subset. -/
def tagQuery (name : ResourceName) : SubsetQuery := ⟨name.namespaceName, name.service, name.subset⟩

/-- The warning about a cluster whose tags could not be looked up. -/
def tagFailure (cluster : String) (kept : Bool) : Note :=
  .warn "failed to fetch subset tags"
    [("cluster", cluster), ("kept_previous", if kept then "true" else "false")]

/-- The subset of a cluster, from its tags and its endpoints. -/
def discoveredSubset (cluster : String) (name : ResourceName) (tags : Tags)
    (assignment : LoadAssignment) : Subset :=
  Subset.ofAddresses cluster name.subset tags assignment.addresses

/-- A snapshot with what another one has under a key, if it has something. -/
def keep (previous : Snapshot) (key : String) (snapshot : Snapshot) : Snapshot :=
  match previous.get? key with
  | some v => snapshot.insert key v
  | none => snapshot

/-- Asks for the subsets of some clusters, one after another, and adds them to a snapshot.  An
endpoint request that fails ends it all. -/
def pullClusters (previous : Snapshot) :
    List Cluster → Snapshot → Dialogue (Except DiscoveryError Snapshot)
  | [], snapshot => .done (.ok snapshot)
  | cluster :: rest, snapshot =>
    match subsetName? cluster.name with
    | none => pullClusters previous rest snapshot
    | some name =>
      (Dialogue.tagsForSubset (tagQuery name)).bind fun
        | .error _ =>
          .note (tagFailure cluster.name (previous.contains cluster.name))
            (pullClusters previous rest (keep previous cluster.name snapshot))
        | .ok tags =>
          (Dialogue.listEndpoints cluster.name).andThen fun assignment =>
            pullClusters previous rest
              (snapshot.insert cluster.name
                (.endpointSubset (discoveredSubset cluster.name name tags assignment)))

/-- Asks for the clusters, and for the tags and endpoints of those that are subsets. -/
def pull (previous : Snapshot) : Dialogue (Except DiscoveryError Snapshot) :=
  Dialogue.listClusters.andThen fun clusters => pullClusters previous clusters ∅

end SidecarAgent.Endpoint
