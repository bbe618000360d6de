/-!
# Key patterns

A pattern says which keys a listener cares about: all of them, those that begin in some way, or one.
-/

namespace SidecarAgent.Config

/-- A set of keys. -/
inductive KeyPattern where
  | any
  | startingWith (beginning : String)
  | exactly (key : String)
  deriving DecidableEq, Repr

namespace KeyPattern

/-- Reads a pattern.  A star, also behind a dot, stands for every key, and a text that ends in a
star for the keys that begin with what is before it; any other text stands for itself. -/
def parse (text : String) : KeyPattern :=
  if text = "*" ∨ text = ".*" then .any
  else
    match text.toList.reverse with
    | '*' :: beginning => .startingWith (String.ofList beginning.reverse)
    | _ => .exactly text

/-- A pattern matches the keys in its set. -/
def accepts : KeyPattern → String → Bool
  | any, _ => true
  | startingWith beginning, key => beginning.toList.isPrefixOf key.toList
  | exactly k, key => key = k

end KeyPattern

end SidecarAgent.Config
