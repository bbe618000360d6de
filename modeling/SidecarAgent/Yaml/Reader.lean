import SidecarAgent.Yaml.Scalar
import SidecarAgent.Yaml.Token.Reader

/-!
# Reading YAML

`parse?` reads a YAML text, which has to hold one document, from its tokens.  A part of the document
may carry an anchor and stand again wherever an alias names the anchor.  An anchor is known from
where it stands on; a later one of the same name replaces it, and an alias inside the part that it
names is sealed.
-/

namespace SidecarAgent.Yaml

open Document (Data)

/-- A reader of nodes within a text: the tokens that are left, the anchors by name, the last first,
and the nodes that are complete by the number of their anchor. -/
structure NodeReader where
  rest : List Token
  anchors : List (String × Nat) := []
  nodes : List (Nat × Data) := []
  anchorCount : Nat := 0

/-- A step of reading nodes, which may fail. -/
abbrev Composing (α : Type) := StateT NodeReader Option α

namespace Composing

/-! ## Tokens -/

/-- Fails. -/
def fail {α : Type} : Composing α := fun _ => none

/-- The next token; behind the last one the stream has ended. -/
def peek : Composing Token := do return (← get).rest.headD .streamEnd

/-- Takes the next token. -/
def skip : Composing Unit := modify fun s => { s with rest := s.rest.drop 1 }

/-- Takes a token that has to be the next one. -/
def expect (t : Token) : Composing Unit := do
  if (← peek) = t then skip else fail

/-- Takes the next token if it is the given one, and says whether it was. -/
def accept (t : Token) : Composing Bool := do
  if (← peek) = t then
    skip
    return true
  else return false

/-! ## Anchors -/

/-- Registers an anchor, and gives its number. -/
def declareAnchor (name : String) : Composing Nat := do
  let s ← get
  set { s with anchors := (name, s.anchorCount) :: s.anchors, anchorCount := s.anchorCount + 1 }
  return s.anchorCount

/-- Remembers the node of an anchor, if it has one. -/
def remember (anchor : Option Nat) (d : Data) : Composing Data := do
  if let some n := anchor then
    modify fun s => { s with nodes := (n, d) :: s.nodes }
  return d

/-- The node that an alias stands for. -/
def aliased (name : String) : Composing Data := do
  let s ← get
  match s.anchors.lookup name with
  | some n => return (s.nodes.lookup n).getD .sealed
  | none => fail

/-- What stands before the content of a node: an anchor, a tag, or both in either order. -/
structure Properties where
  anchor : Option Nat := none
  tag : Option (String × String) := none

/-- Takes an anchor if one comes next. -/
def takeAnchor : Composing (Option Nat) := do
  match ← peek with
  | .anchor name =>
    skip
    return some (← declareAnchor name)
  | _ => return none

/-- Takes a tag if one comes next. -/
def takeTag : Composing (Option (String × String)) := do
  match ← peek with
  | .tag handle suffix =>
    skip
    return some (handle, suffix)
  | _ => return none

/-- Takes what stands before the content of a node. -/
def properties : Composing Properties := do
  match ← takeAnchor with
  | some n => return { anchor := some n, tag := ← takeTag }
  | none =>
    match ← takeTag with
    | some t => return { anchor := ← takeAnchor, tag := some t }
    | none => return {}

/-! ## Nodes -/

/-- What stands where nothing is written. -/
def nothing : Data := .scalar emptyScalar

/-- The places where a node can stand: inside a flow collection, in a block, or in a block mapping,
where the entries of a sequence need no indentation. -/
inductive Place where
  | flow
  | block
  | blockEntry
  deriving DecidableEq

/-- The token ends an entry of a block mapping. -/
def endsBlockEntry (t : Token) : Bool := t = .key || t = .value || t = .blockEnd

mutual

/-- Reads a node. -/
def node : (steps : Nat) → Place → Composing Data
  | 0, _ => fail
  | steps + 1, place => do
    if let .alias name := ← peek then
      skip
      return ← aliased name
    let p ← properties
    let t ← peek
    match t with
    | .scalar plain text =>
      skip
      remember p.anchor (.scalar (scalarOf plain p.tag text))
    | .flowSequenceStart =>
      skip
      remember p.anchor (.list (← flowItems steps true))
    | .flowMappingStart =>
      skip
      remember p.anchor (.record (← flowEntries steps true))
    | _ =>
      if t = .blockEntry && place = .blockEntry then
        remember p.anchor (.list (← looseItems steps))
      else if t = .blockSequenceStart && place ≠ .flow then
        skip
        remember p.anchor (.list (← blockItems steps))
      else if t = .blockMappingStart && place ≠ .flow then
        skip
        remember p.anchor (.record (← blockEntries steps))
      else if p.anchor.isSome || p.tag.isSome then
        remember p.anchor (.scalar (scalarOf true p.tag ""))
      else fail

/-- Reads a node of a block, or nothing where the next token says that there is none. -/
def nodeUnless : (steps : Nat) → (Token → Bool) → Place → Composing Data
  | 0, _, _ => fail
  | steps + 1, absent, place => do
    if absent (← peek) then return nothing else node steps place

/-- Reads the items of a block sequence up to its end. -/
def blockItems : (steps : Nat) → Composing (List Data)
  | 0 => fail
  | steps + 1 => do
    if ← accept .blockEnd then return []
    expect .blockEntry
    let item ← nodeUnless steps (fun t => t = .blockEntry || t = .blockEnd) .block
    return item :: (← blockItems steps)

/-- Reads the items of a sequence that has no indentation of its own. -/
def looseItems : (steps : Nat) → Composing (List Data)
  | 0 => fail
  | steps + 1 => do
    if ← accept .blockEntry then
      let item ← nodeUnless steps (fun t => t = .blockEntry || endsBlockEntry t) .block
      return item :: (← looseItems steps)
    else return []

/-- Reads the entries of a block mapping up to its end. -/
def blockEntries : (steps : Nat) → Composing (List (Data × Data))
  | 0 => fail
  | steps + 1 => do
    if ← accept .blockEnd then return []
    let key ←
      if ← accept .key then nodeUnless steps endsBlockEntry .blockEntry
      else if (← peek) = .value then pure nothing
      else fail
    let value ←
      if ← accept .value then nodeUnless steps endsBlockEntry .blockEntry
      else pure nothing
    return (key, value) :: (← blockEntries steps)

/-- Reads the items of a flow sequence up to its end.  An item may be a mapping of one entry. -/
def flowItems : (steps : Nat) → (first : Bool) → Composing (List Data)
  | 0, _ => fail
  | steps + 1, first => do
    if ← accept .flowSequenceEnd then return []
    if !first then expect .flowEntry
    if ← accept .flowSequenceEnd then return []
    let item ←
      if ← accept .key then pure (Data.record [← flowPair steps])
      else node steps .flow
    return item :: (← flowItems steps false)

/-- Reads a mapping of one entry in a flow sequence.  Where its key is left out, the token that
shows this is taken. -/
def flowPair : (steps : Nat) → Composing (Data × Data)
  | 0 => fail
  | steps + 1 => do
    let ends := fun t => t = Token.flowEntry || t = Token.flowSequenceEnd
    let t ← peek
    let key ←
      if t = .value || ends t then do skip; pure nothing
      else node steps .flow
    let value ←
      if ← accept .value then nodeUnless steps ends .flow
      else pure nothing
    return (key, value)

/-- Reads the entries of a flow mapping up to its end. -/
def flowEntries : (steps : Nat) → (first : Bool) → Composing (List (Data × Data))
  | 0, _ => fail
  | steps + 1, first => do
    if ← accept .flowMappingEnd then return []
    if !first then expect .flowEntry
    if ← accept .flowMappingEnd then return []
    let ends := fun t => t = Token.flowEntry || t = Token.flowMappingEnd
    if ← accept .key then
      let key ← nodeUnless steps (fun t => t = .value || ends t) .flow
      let value ← flowValue steps ends
      return (key, value) :: (← flowEntries steps false)
    else if (← peek) = .value then
      let value ← flowValue steps ends
      return (nothing, value) :: (← flowEntries steps false)
    else
      let key ← node steps .flow
      return (key, nothing) :: (← flowEntries steps false)

/-- Reads the value of an entry of a flow mapping, if it has one. -/
def flowValue : (steps : Nat) → (Token → Bool) → Composing Data
  | 0, _ => fail
  | steps + 1, ends => do
    if ← accept .value then nodeUnless steps ends .flow else return nothing

end

/-! ## Documents -/

/-- Takes tokens, `steps` at most, as long as they are the given one. -/
def skipAll (t : Token) : (steps : Nat) → Composing Unit
  | 0 => pure ()
  | steps + 1 => do
    if ← accept t then skipAll t steps

/-- The token cannot be the beginning of a document's content. -/
def endsDocument (t : Token) : Bool :=
  t = .directive || t = .documentStart || t = .documentEnd || t = .streamEnd

/-- Reads the one document of a stream. -/
def document (steps : Nat) : Composing Data := do
  let t ← peek
  if t = .streamEnd then fail
  let d ←
    if t = .directive || t = .documentStart then do
      skipAll .directive steps
      expect .documentStart
      nodeUnless steps endsDocument .block
    else node steps .block
  skipAll .documentEnd steps
  if (← peek) = .streamEnd then return d else fail

end Composing

/-- Reads a YAML text, which has to hold one document.  No token takes more than four steps. -/
def parse? (text : String) : Option Data :=
  match tokens? text with
  | some tokens =>
    ((Composing.document (4 * tokens.length + 8)).run { rest := tokens }).map Prod.fst
  | none => none

end SidecarAgent.Yaml
