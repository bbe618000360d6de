import SidecarAgent.Document.Data
import SidecarAgent.Egress.Rule
import SidecarAgent.Json.Reader

/-!
# Rules in documents

How a rule is written in a document: a record of its hosts and its ports, both of which may be left
out, and a port a record of its number and its protocol, both of which have to be there.
-/

namespace SidecarAgent.Egress

open Document (Data)

/-- Reads a port. -/
def Port.read? (d : Data) : Option Port := do
  match ← Data.fields? ["port", "protocol"] d with
  | [number, protocol] =>
    some ⟨← Data.required? Data.int32? number, ← Data.required? Data.text? protocol⟩
  | _ => none

/-- Reads a rule. -/
def Rule.read? (d : Data) : Option Rule := do
  match ← Data.fields? ["hosts", "ports"] d with
  | [hosts, ports] =>
    some
      ⟨← Data.orElse? (Data.listOf? Data.text?) [] hosts,
        ← Data.orElse? (Data.listOf? Port.read?) [] ports⟩
  | _ => none

/-- Reads a rule from a JSON text. -/
def Rule.ofJson? (text : String) : Option Rule := (Json.parse? text).bind Rule.read?

end SidecarAgent.Egress
