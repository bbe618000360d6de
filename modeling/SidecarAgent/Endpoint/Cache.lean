import SidecarAgent.Discovery.ResourceName
import SidecarAgent.Endpoint.Subset

/-!
# The endpoint cache

The cache holds the published subset of every cluster, by cluster name.  A look-up by service and
tags gives the instances of the first subset that fits, in the order of cluster names.
-/

namespace SidecarAgent.Endpoint

open Discovery (ResourceName)

/-- A cached subset, with the service that its cluster's name gives, if it gives one. -/
structure Cached where
  service : Option String
  subset : Subset
  deriving DecidableEq, Repr

/-- A cached subset fits when it is of the service and has the tags. -/
def Cached.fits (cached : Cached) (service : String) (tags : Tags) : Bool :=
  cached.service = some service && cached.subset.matchesTags tags

/-- The cached subsets, by cluster name. -/
abbrev Cache := KeyMap Cached

namespace Cache

/-- The service that a cluster's name gives. -/
def serviceOf (cluster : String) : Option String :=
  (ResourceName.parse? cluster).map ResourceName.service

/-- Sets the subset of a cluster. -/
def set (cache : Cache) (cluster : String) (subset : Subset) : Cache :=
  cache.insert cluster ⟨serviceOf cluster, subset⟩

/-- Removes the subset of a cluster. -/
def delete (cache : Cache) (cluster : String) : Cache := cache.erase cluster

/-- The subset of a cluster. -/
def subset? (cache : Cache) (cluster : String) : Option Subset :=
  (cache.get? cluster).map Cached.subset

/-- The instances of the first subset that is of a service and has some tags. -/
def instances? (cache : Cache) (service : String) (tags : Tags) : Option (List Instance) :=
  (cache.values.find? fun c => c.fits service tags).map fun c => c.subset.instances

end Cache

end SidecarAgent.Endpoint
