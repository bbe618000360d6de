import SidecarAgent.Time.Duration
import SidecarAgent.Discovery.ResourceType

/-!
# Discovery errors

What can go wrong when an agent asks the control plane.  Some errors mean only that the connection
went away; the others say that the control plane answered something wrong.
-/

namespace SidecarAgent.Discovery

open Time (Duration)

/-- The outcome codes of a remote call. -/
inductive StatusCode where
  | ok
  | cancelled
  | unknown
  | invalidArgument
  | deadlineExceeded
  | notFound
  | alreadyExists
  | permissionDenied
  | resourceExhausted
  | failedPrecondition
  | aborted
  | outOfRange
  | unimplemented
  | internal
  | unavailable
  | dataLoss
  | unauthenticated
  deriving DecidableEq, Repr

namespace StatusCode

/-- The codes in the order of their numbers, from zero. -/
def all : List StatusCode :=
  [ok, cancelled, unknown, invalidArgument, deadlineExceeded, notFound, alreadyExists,
    permissionDenied, resourceExhausted, failedPrecondition, aborted, outOfRange, unimplemented,
    internal, unavailable, dataLoss, unauthenticated]

/-- The code of a number; a number without a code is unknown. -/
def ofNumber (n : Int) : StatusCode :=
  if n < 0 then unknown else (all[n.toNat]?).getD unknown

/-- The name of a code. -/
def name : StatusCode → String
  | ok => "Ok"
  | cancelled => "Cancelled"
  | unknown => "Unknown"
  | invalidArgument => "InvalidArgument"
  | deadlineExceeded => "DeadlineExceeded"
  | notFound => "NotFound"
  | alreadyExists => "AlreadyExists"
  | permissionDenied => "PermissionDenied"
  | resourceExhausted => "ResourceExhausted"
  | failedPrecondition => "FailedPrecondition"
  | aborted => "Aborted"
  | outOfRange => "OutOfRange"
  | unimplemented => "Unimplemented"
  | internal => "Internal"
  | unavailable => "Unavailable"
  | dataLoss => "DataLoss"
  | unauthenticated => "Unauthenticated"

end StatusCode

/-- Why a remote call failed.  The connection is lost when some input or output error lies behind
the failure. -/
structure Status where
  code : StatusCode
  lostConnection : Bool := false
  deriving DecidableEq, Repr

/-- Why a discovery request came to nothing. -/
inductive DiscoveryError where
  | timeout (type : ResourceType) (limit : Duration)
  | transport (status : Status)
  | streamClosed (type : ResourceType)
  | typeMismatch (expected actual : String)
  | decode (type : ResourceType)
  | subsetTags
  deriving DecidableEq

namespace DiscoveryError

/-- The error means that the connection to the control plane went away. -/
def isConnectionError : DiscoveryError → Bool
  | timeout _ _ => true
  | transport status => status.lostConnection
  | streamClosed _ => true
  | typeMismatch _ _ => false
  | decode _ => false
  | subsetTags => false

/-- The wording of an error; of a failed call, its code. -/
def message : DiscoveryError → String
  | timeout t limit => t.shortName ++ " request timed out after " ++ limit.text
  | transport status => status.code.name
  | streamClosed t => "stream closed before a " ++ t.shortName ++ " response arrived"
  | typeMismatch expected actual =>
    "unexpected resource type: expected " ++ expected ++ ", got " ++ actual
  | decode t => "failed to decode " ++ t.shortName ++ " resource"
  | subsetTags => "failed to look up subset tags"

end DiscoveryError

end SidecarAgent.Discovery
