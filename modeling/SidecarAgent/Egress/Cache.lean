import SidecarAgent.KeyMap
import SidecarAgent.Egress.Rule

/-!
# The egress cache

The cache holds the published rule sets by key, all of them valid.  A look-up by host name prefers a
rule that names the host itself, under whatever key, to one that covers it with a star; among
equals the first rule under the first key wins.
-/

namespace SidecarAgent.Egress

/-- The published rule sets, by key. -/
abbrev Cache := KeyMap ValidRules

/-- A pattern names a host when it has no star and is the host. -/
def namesHost (host pattern : List Char) : Bool :=
  pattern.head? ≠ some '*' && pattern = host

/-- A pattern covers a host when it is a star before something that the host ends in. -/
def coversHost (host : List Char) : List Char → Bool
  | '*' :: ending => ending.isSuffixOf host
  | _ => false

namespace Cache

/-- Every cached rule, by key and then in order. -/
def rules (cache : Cache) : List Rule := cache.values.flatMap ValidRules.rules

/-- The first rule with a pattern that passes a test. -/
def findRule? (cache : Cache) (test : List Char → Bool) : Option Rule :=
  cache.rules.find? fun rule => rule.hosts.any fun pattern => test pattern.toList

/-- The rule for a host: the first that names it, or else the first that covers it. -/
def match? (cache : Cache) (host : String) : Option Rule :=
  (cache.findRule? (namesHost host.toList)).or (cache.findRule? (coversHost host.toList))

end Cache

end SidecarAgent.Egress
