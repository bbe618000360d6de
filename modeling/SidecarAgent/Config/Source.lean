import SidecarAgent.Config.Diff
import SidecarAgent.Discovery.Error
import SidecarAgent.Telemetry.Note

/-!
# Configuration sources

A source is something that can be asked for configuration.  Some sources have a fixed snapshot.  A
polled source builds a new one each time it is asked, reports the difference to the last one it
built, and keeps that last one when it fails.
-/

namespace SidecarAgent.Config

open Discovery (DiscoveryError)
open Telemetry (Metric Note)

/-- Why a source has no answer. -/
inductive SourceError where
  | notFound (key : String)
  | discovery (cause : DiscoveryError)
  | read (path : String)
  | parse (path : String)
  deriving DecidableEq

namespace SourceError

/-- The wording of an error, without its cause. -/
def message : SourceError → String
  | notFound key => "key not found: " ++ key
  | discovery cause => cause.message
  | read path => "failed to read " ++ path
  | parse path => "failed to parse " ++ path

/-- The error means no more than that the connection to the control plane went away. -/
def isConnectionError : SourceError → Bool
  | discovery cause => cause.isConnectionError
  | _ => false

end SourceError

/-- Looks a key up in a snapshot. -/
def lookupKey (snapshot : Snapshot) (key : String) : Except SourceError Value :=
  match snapshot.get? key with
  | some v => .ok v
  | none => .error (.notFound key)

/-- A source that is polled: its name, its priority, and the last snapshot it built. -/
structure PolledSource where
  name : String
  priority : Int
  current : Snapshot := ∅
  deriving DecidableEq

namespace PolledSource

/-- What is noted when a source begins to build a snapshot. -/
def beginNotes (s : PolledSource) : List Note := [.measure (.touch (.refreshTime s.name))]

/-- What is noted when a source has come to an end with a snapshot, or failed to. -/
def endNotes (s : PolledSource) : List Note := [.count (.refreshTime s.name)]

/-- Takes over a snapshot. -/
def replace (s : PolledSource) (pulled : Except DiscoveryError Snapshot) :
    PolledSource × Except SourceError Snapshot :=
  match pulled with
  | .ok snapshot => ({ s with current := snapshot }, .ok snapshot)
  | .error e => (s, .error (.discovery e))

/-- Takes over a snapshot, and reports the difference to the one before. -/
def refresh (s : PolledSource) (pulled : Except DiscoveryError Snapshot) :
    PolledSource × Except SourceError (List Event) :=
  match pulled with
  | .ok snapshot => ({ s with current := snapshot }, .ok (diff s.name s.current snapshot))
  | .error e => (s, .error (.discovery e))

/-- The count of reported events. -/
def eventNotes (s : PolledSource) (events : List Event) : List Note :=
  events.map fun e => .count (.events s.name e.change.kind)

/-- What a refresh loop notes about a failure. -/
def failureNote (s : PolledSource) (e : SourceError) : Note :=
  if e.isConnectionError then .info "control plane unavailable" [("source", s.name)]
  else .warn "refresh failed" [("source", s.name)]

end PolledSource

end SidecarAgent.Config
