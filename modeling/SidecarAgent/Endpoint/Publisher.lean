import SidecarAgent.Config.Value
import SidecarAgent.Endpoint.Cache
import SidecarAgent.Telemetry.Note

/-!
# Publishing endpoint subsets

The endpoint cache listens for changes of subsets.  A subset without instances is removed instead of
being kept empty.
-/

namespace SidecarAgent.Endpoint

open Config (Event)
open Telemetry (Note)

namespace Cache

/-- The reading that goes with the size of the cache. -/
def sizeNote (cache : Cache) : Note := .measure (.set .endpointSubsets cache.size)

/-- Removes a cluster, and says whether it was there. -/
def withdraw (cache : Cache) (cluster : String) : Cache × Bool :=
  (cache.delete cluster, cache.contains cluster)

/-- Removes the cluster that an event is about, and notes it. -/
def remove (cache : Cache) (e : Event) : Cache × List Note :=
  let (after, removed) := cache.withdraw e.key
  let notice :=
    if removed then
      [Note.info "endpoint subset removed" [("source", e.source), ("cluster", e.key)]]
    else []
  (after, after.sizeNote :: notice)

/-- The cache after an event, and what is noted. -/
def onEvent (cache : Cache) (e : Event) : Cache × List Note :=
  match e.change.value? with
  | none => cache.remove e
  | some (.endpointSubset subset) =>
    if subset.instances.isEmpty then cache.remove e
    else
      let after := cache.set e.key subset
      (after, [after.sizeNote])
  | some _ => (cache, [])

end Cache

end SidecarAgent.Endpoint
