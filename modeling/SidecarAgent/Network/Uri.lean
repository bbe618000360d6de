/-!
# Addresses as URIs

`parse?` says of a text whether it is a URI, and whether one with a scheme: a path alone, an
authority alone, or a scheme, an authority and what follows it.
-/

namespace SidecarAgent.Network

/-! ## Characters -/

/-- A character that may stand in an authority, besides those that have a meaning there. -/
def isPlainChar (c : Char) : Bool := c.isAlphanum || "!$&'()*+,-.;=_~".toList.contains c

/-- A character that ends an authority. -/
def endsAuthority (c : Char) : Bool := c = '/' || c = '?' || c = '#'

/-- A character of a scheme. -/
def isSchemeChar (c : Char) : Bool := c.isAlphanum || "+-.~".toList.contains c

/-- A character that may stand in a path.  Quotes and braces are let through. -/
def isPathChar (c : Char) : Bool :=
  '!' ≤ c && c ≤ '~' && !"#<>?\x60".toList.contains c

/-- A character that may stand in a query. -/
def isQueryChar (c : Char) : Bool := '!' ≤ c && c ≤ '~' && !"\"#<>".toList.contains c

/-! ## Authorities -/

/-- What has been seen of an authority: the colons since the last sign that makes earlier ones
harmless, brackets, a percent sign, and whether an at sign came last. -/
structure AuthorityState where
  colons : Nat := 0
  opened : Bool := false
  closed : Bool := false
  percent : Bool := false
  afterAt : Bool := false

/-- The most colons that may follow each other, as they do in an address between brackets. -/
def maxColons : Nat := 8

/-- Looks at one more character of an authority. -/
def AuthorityState.step? (s : AuthorityState) (c : Char) : Option AuthorityState :=
  let s := { s with afterAt := false }
  if c = ':' then
    if s.colons < maxColons then some { s with colons := s.colons + 1 } else none
  else if c = '[' then
    if s.percent || s.opened then none else some { s with opened := true }
  else if c = ']' then
    if s.opened && !s.closed then some { s with closed := true, colons := 0, percent := false }
    else none
  else if c = '@' then some { s with colons := 0, percent := false, afterAt := true }
  else if c = '%' then some { s with percent := true }
  else if isPlainChar c then some s
  else none

/-- An authority is complete when its brackets are paired, one colon at most stands before a port,
and something follows what is before an at sign. -/
def AuthorityState.isComplete (s : AuthorityState) : Bool :=
  s.opened = s.closed && s.colons ≤ 1 && !s.afterAt && !s.percent

/-- A text is an authority. -/
def isAuthority (cs : List Char) : Bool :=
  match cs.foldlM AuthorityState.step? {} with
  | some s => s.isComplete
  | none => false

/-! ## Paths and schemes -/

/-- What follows an authority: a path, a query and a fragment, each of which may be missing.  The
fragment may be anything. -/
def isPathAndQuery (cs : List Char) : Bool :=
  match cs.dropWhile isPathChar with
  | [] => true
  | '#' :: _ => true
  | '?' :: query =>
    match query.dropWhile isQueryChar with
    | [] => true
    | '#' :: _ => true
    | _ => false
  | _ => false

/-- The longest scheme. -/
def maxSchemeLength : Nat := 64

/-- What a text shows of a scheme: none, one and what follows it, or one that is too long. -/
inductive SchemeReading where
  | missing
  | found (rest : List Char)
  | tooLong

/-- Looks for a scheme at the beginning of a text. -/
def readScheme (cs : List Char) : SchemeReading :=
  if cs.length ≤ 3 then .missing
  else
    match cs.dropWhile isSchemeChar with
    | ':' :: '/' :: '/' :: rest =>
      if maxSchemeLength < (cs.takeWhile isSchemeChar).length then .tooLong else .found rest
    | _ => .missing

/-! ## URIs -/

/-- What kind of URI a text is: one with a scheme, or one without. -/
inductive Uri where
  | absolute
  | relative
  deriving DecidableEq, Repr

/-- The longest URI, in bytes. -/
def maxUriLength : Nat := 65534

/-- A nonempty authority and what follows it. -/
def isHierarchy (cs : List Char) : Bool :=
  let authority := cs.takeWhile fun c => !endsAuthority c
  !authority.isEmpty && isAuthority authority &&
    isPathAndQuery (cs.dropWhile fun c => !endsAuthority c)

/-- Reads a URI. -/
def Uri.parse? (text : String) : Option Uri :=
  if maxUriLength < text.utf8ByteSize then none
  else
    match text.toList with
    | [] => none
    | ['*'] => some .relative
    | '/' :: path => if isPathAndQuery ('/' :: path) then some .relative else none
    | cs =>
      match readScheme cs with
      | .tooLong => none
      | .found rest => if isHierarchy rest then some .absolute else none
      | .missing => if isAuthority cs then some .relative else none

end SidecarAgent.Network
