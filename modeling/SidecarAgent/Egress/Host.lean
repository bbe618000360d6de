import SidecarAgent.Text.Quoted

/-!
# Host names

A host name is a sequence of labels separated by dots.  Every label is a DNS label, except that the
first may be a star, or a DNS label behind a star; a star stands for whatever a host ends in.
`checkHost` gives the first fault of a name that breaks these rules.
-/

namespace SidecarAgent.Egress

/-- The longest host name, in bytes. -/
def maxHostLength : Nat := 255

/-- The longest label, in bytes. -/
def maxLabelLength : Nat := 63

/-- What can be wrong with a host name. -/
inductive HostFault where
  | empty
  | tooLong
  | firstLabel
  | laterLabel
  deriving DecidableEq, Repr

/-- The wording of a fault. -/
def HostFault.reason : HostFault → String
  | empty => "empty host name"
  | tooLong => "host name is longer than 255 bytes"
  | firstLabel => "invalid first label"
  | laterLabel => "invalid label"

/-- A character that may stand anywhere in a DNS label, a hyphen only inside it. -/
def isLabelChar (c : Char) : Bool := c.isAlphanum || c = '-'

/-- A DNS label has 1 to 63 letters, digits and hyphens and neither begins nor ends with a hyphen.
-/
def isDnsLabel (label : List Char) : Bool :=
  match label.head?, label.getLast? with
  | some first, some last =>
    label.length ≤ maxLabelLength && first.isAlphanum && last.isAlphanum && label.all isLabelChar
  | _, _ => false

/-- The length of a text in bytes. -/
def byteLength (cs : List Char) : Nat := cs.foldr (fun c n => c.utf8Size + n) 0

/-- A first label is a star, a DNS label behind a star, or a DNS label, of 63 bytes at most with the
star counted. -/
def isFirstLabel (label : List Char) : Bool :=
  byteLength label ≤ maxLabelLength &&
    match label with
    | ['*'] => true
    | '*' :: rest => isDnsLabel rest
    | _ => isDnsLabel label

/-- The first fault of a host name, if it has one. -/
def hostFault? (host : List Char) : Option HostFault :=
  if host.isEmpty then some .empty
  else if maxHostLength < byteLength host then some .tooLong
  else
    match host.splitOn '.' with
    | [] => some .firstLabel
    | first :: later =>
      if !isFirstLabel first then some .firstLabel
      else if !later.all isDnsLabel then some .laterLabel
      else none

/-- Accepts a host name without fault. -/
def checkHost (host : String) : Except HostFault Unit :=
  match hostFault? host.toList with
  | none => .ok ()
  | some fault => .error fault

end SidecarAgent.Egress
