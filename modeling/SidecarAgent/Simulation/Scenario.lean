import SidecarAgent.Simulation.Step

/-!
# Scenarios

A scenario is a world to begin with and a list of steps.  Its steps are carried out one after
another, each as soon as the one before has its reply; what runs in the background goes on while a
step waits.
-/

namespace SidecarAgent.Simulation

open Discovery (Dialogue LoadAssignment)

/-- A rehearsal: the agent and its surroundings at the start, and what to do. -/
structure Scenario where
  start : World
  steps : List Step

/-- The replies of two questions that are asked at the same time, in short. -/
def concurrently (cluster : String) : List (Act Reply) :=
  [Act.answer (fun clusters => .count clusters.length) Dialogue.listClusters,
    Act.answer (fun a => .names a.addresses) (Dialogue.listEndpoints cluster)]

/-- The processes in front that a step consists of. -/
def Step.front : Step → List (Act Reply)
  | .concurrent cluster => concurrently cluster
  | s => [Act.step s]

/-- Starts what a step sends into the background. -/
def Step.launch (s : Step) (m : Machine World) : Machine World :=
  match s with
  | .run manager =>
    let (w, strands) := m.state.startLoops manager
    strands.foldl Machine.spawn { m with state := w }
  | .sendLater id millis key =>
    match m.state.pacerNames.get? id with
    | some n => m.spawn (.once (Act.sendLater millis n key))
    | none => m
  | _ => m

/-- The reply of a step from the replies of its processes. -/
def joinReplies : List Reply → Reply
  | [r] => r
  | [r, s] => .both r s
  | _ => .done

/-- Carries one step out. -/
def Step.perform (s : Step) (m : Machine World) : Option (Reply × Machine World) :=
  ((s.launch m).complete s.front).map fun (replies, m) => (joinReplies replies, m)

/-- Carries steps out, and gives their replies. -/
def performAll : List Step → Machine World → Option (List Reply)
  | [], _ => some []
  | s :: rest, m =>
    match s.perform m with
    | none => none
    | some (reply, m) => (performAll rest m).map (reply :: ·)

/-- The replies of a scenario's steps, if it comes to its end. -/
def Scenario.replies (s : Scenario) : Option (List Reply) := performAll s.steps { state := s.start }

end SidecarAgent.Simulation
