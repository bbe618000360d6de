import SidecarAgent.Config.Source
import SidecarAgent.Egress.RuleText
import SidecarAgent.Yaml.Reader

/-!
# Egress rules from a file

A rule file is a YAML text with rule sets under their keys.  It may also name a backend for the
rules, which has to be well formed and is not used.  A file is read once; what it says never
changes.
-/

namespace SidecarAgent.Egress

open Config (Snapshot SourceError)
open Document (Data)

/-- The name of the source of rules from a file. -/
def fileSourceName : String := "EgressFileSource"

/-- The priority of the source of rules from a file. -/
def fileSourcePriority : Int := 4

/-- What is under a path: a file with its bytes, or nothing that can be read. -/
structure FileContent where
  path : String
  bytes : Option (List UInt8)

/-- A rule file that was read: where it was, and its rule sets. -/
structure RuleFile where
  path : String
  snapshot : Snapshot

/-- Reads the section that names a backend. -/
def readBackend? (d : Data) : Option Unit := do
  match ← Data.fields? ["infra", "address"] d with
  | [infra, address] =>
    let _ ← Data.orElse? Data.text? "" infra
    let _ ← Data.orElse? Data.text? "" address
    some ()
  | _ => none

/-- Reads the rule sets of a document. -/
def readRuleSets? (d : Data) : Option (KeyMap (List Rule)) := do
  match ← Data.fields? ["egress", "egressRule"] d with
  | [backend, rules] =>
    let _ ← Data.orElse? (Data.optional? readBackend?) none backend
    Data.orElse? (Data.mapOf? (Data.listOf? Rule.read?)) ∅ rules
  | _ => none

namespace RuleFile

/-- Reads a rule file's text. -/
def parse (path text : String) : Except SourceError RuleFile :=
  match (Yaml.parse? text).bind readRuleSets? with
  | some rules => .ok ⟨path, rules.map .egressRules⟩
  | none => .error (.parse path)

/-- Reads a rule file, whose bytes have to be text. -/
def load (file : FileContent) : Except SourceError RuleFile :=
  match file.bytes.bind fun bytes => String.fromUTF8? ⟨bytes.toArray⟩ with
  | some text => parse file.path text
  | none => .error (.read file.path)

end RuleFile

end SidecarAgent.Egress
