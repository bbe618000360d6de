import SidecarAgent.Config.Value
import SidecarAgent.Egress.Cache
import SidecarAgent.Telemetry.Note

/-!
# Publishing egress rules

The egress cache listens for changes of rule sets.  A rule set is validated before it gets near the
cache, and a key whose new rules are invalid keeps the rules it had.
-/

namespace SidecarAgent.Egress

open Config (Event)
open Telemetry (Note)

namespace Cache

/-- Sets the rules under a key. -/
def publish (cache : Cache) (key : String) (valid : ValidRules) : Cache := cache.insert key valid

/-- The reading that goes with the size of the cache. -/
def sizeNote (cache : Cache) : Note := .measure (.set .egressRules cache.size)

/-- Removes a key, and says whether it was there. -/
def withdraw (cache : Cache) (key : String) : Cache × Bool := (cache.erase key, cache.contains key)

/-- The cache after an event, and what is noted. -/
def onEvent (cache : Cache) (e : Event) : Cache × List Note :=
  match e.change.value? with
  | none =>
    let (after, removed) := cache.withdraw e.key
    let notice :=
      if removed then [Note.info "egress rules removed" [("source", e.source), ("key", e.key)]]
      else []
    (after, after.sizeNote :: notice)
  | some (.egressRules rules) =>
    match validate rules with
    | .ok valid =>
      let after := cache.publish e.key valid
      (after,
        [Note.info "egress rules published"
          [("source", e.source), ("key", e.key), ("kind", e.change.kind.text),
            ("hosts", valid.text)],
          after.sizeNote])
    | .error _ =>
      (cache,
        [.count .rejected,
          Note.warn "rejecting invalid egress rules" [("source", e.source), ("key", e.key)]])
  | some _ => (cache, [])

end Cache

end SidecarAgent.Egress
