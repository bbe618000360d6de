import SidecarAgent.Document.Data
import SidecarAgent.Network.Uri
import SidecarAgent.Yaml.Reader

/-!
# Cluster access

A configuration file for cluster access names clusters, users and contexts, and which context is the
current one.  A context puts a cluster and a user together.  With the file an agent has access to a
cluster if the current context leads to a cluster with a server, and to a user if it names one.
-/

namespace SidecarAgent.Kubernetes

open Document (Data)

/-! ## Parts -/

/-- A thing under a name.  Its description may be missing. -/
structure NamedEntry (α : Type) where
  name : String
  content : Option α

/-- A cluster to get access to. -/
structure ClusterEntry where
  server : Option String

/-- A cluster and a user, by their names. -/
structure Context where
  cluster : String
  user : Option String

/-- A configuration file for cluster access.  Of users only the names matter here. -/
structure ClientConfig where
  clusters : List (NamedEntry ClusterEntry)
  users : List (NamedEntry Unit)
  contexts : List (NamedEntry Context)
  currentContext : Option String

/-! ## Reading -/

/-- Reads a cluster. -/
def ClusterEntry.read? (d : Data) : Option ClusterEntry := do
  match ← Data.fields? ["server"] d with
  | [server] => some ⟨← Data.orElse? (Data.optional? Data.text?) none server⟩
  | _ => none

/-- Reads a context. -/
def Context.read? (d : Data) : Option Context := do
  match ← Data.fields? ["cluster", "user"] d with
  | [cluster, user] =>
    some
      ⟨← Data.required? Data.text? cluster,
        ← Data.orElse? (Data.optional? Data.text?) none user⟩
  | _ => none

/-- Reads what is said about a user, which only has to be a record. -/
def readUser? (d : Data) : Option Unit := if d.isRecord then some () else none

/-- Reads a thing under a name, its description from a field. -/
def NamedEntry.read? {α : Type} (field : String) (read : Data → Option α) (d : Data) :
    Option (NamedEntry α) := do
  match ← Data.fields? ["name", field] d with
  | [name, content] =>
    some
      ⟨← Data.required? Data.text? name, ← Data.orElse? (Data.optional? read) none content⟩
  | _ => none

/-- Reads a list of things under names.  It may be missing or null. -/
def readEntries? {α : Type} (field : String) (read : Data → Option α) (entries : Option Data) :
    Option (List (NamedEntry α)) :=
  let list := Data.listOf? (NamedEntry.read? field read)
  (Data.orElse? (Data.optional? list) none entries).map fun found => found.getD []

namespace ClientConfig

/-- Reads a configuration. -/
def read? (d : Data) : Option ClientConfig := do
  match ← Data.fields? ["clusters", "users", "contexts", "current-context"] d with
  | [clusters, users, contexts, current] =>
    some
      { clusters := ← readEntries? "cluster" ClusterEntry.read? clusters
        users := ← readEntries? "user" readUser? users
        contexts := ← readEntries? "context" Context.read? contexts
        currentContext := ← Data.orElse? (Data.optional? Data.text?) none current }
  | _ => none

/-- Reads a configuration file, whose bytes have to be text. -/
def load? (bytes : List UInt8) : Option ClientConfig := do
  read? (← Yaml.parse? (← String.fromUTF8? ⟨bytes.toArray⟩))

/-! ## Access -/

/-- What the first entry of a name describes. -/
def find? {α : Type} (entries : List (NamedEntry α)) (name : String) : Option α :=
  (entries.find? fun e => e.name = name).bind NamedEntry.content

/-- The server of the current context's cluster, if there is one and the context's user is known. -/
def server? (config : ClientConfig) : Option String := do
  let context ← find? config.contexts (← config.currentContext)
  let cluster ← find? config.clusters context.cluster
  if let some user := context.user then find? config.users user
  cluster.server

/-- The configuration gives access to a cluster: its server is written as a URI. -/
def givesAccess (config : ClientConfig) : Bool :=
  (config.server?.bind Network.Uri.parse?).isSome

end ClientConfig

/-- What is in a configuration file, if there is one, gives access to a cluster. -/
def hasAccess (file : Option (List UInt8)) : Bool :=
  match file.bind ClientConfig.load? with
  | some config => config.givesAccess
  | none => false

end SidecarAgent.Kubernetes
