import RunnerFleet.Directory
import RunnerFleet.Fault
import RunnerFleet.Json.Reader
import RunnerFleet.Label
import RunnerFleet.Value.Key
import RunnerFleet.Value.Literal

/-!
# Failures

Everything that can end a pass, a listing, a start or a set-up, by cause.  Every
failure has a message, which logs and statuses show.  The failures that the
service expects of a forge or of the container engine also have a title; a pass
reports all others as unexpected.
-/

namespace RunnerFleet

/-! ## Answers the forge should not give -/

/-- The classes of answers other than success. -/
inductive RefusalClass where
  | authentication
  | access
  | missing
  | rateLimit
  | server
  | unexpected
  deriving DecidableEq, Repr

/-- The class of a status code. -/
def RefusalClass.ofStatus (status : Int) : RefusalClass :=
  if status = 401 then .authentication
  else if status = 403 then .access
  else if status = 404 then .missing
  else if status = 429 then .rateLimit
  else if status = 500 then .server
  else .unexpected

/-- The title of a class. -/
def RefusalClass.title : RefusalClass → String
  | .authentication => "AuthenticationFailed"
  | .access => "AccessDenied"
  | .missing => "ResourceNotFound"
  | .rateLimit => "RateLimited"
  | .server => "RemoteServerError"
  | .unexpected => "UnexpectedStatus"

/-- An answer with a status other than success to an operation. -/
structure Refusal where
  status : Int
  operation : Text
  body : Text
  deriving DecidableEq, Repr

namespace Refusal

/-- The class of a refusal. -/
def kind (refusal : Refusal) : RefusalClass :=
  .ofStatus refusal.status

/-- The refusal that an answer amounts to.  Its body is kept only where the
message shows it. -/
def ofAnswer (status : Int) (operation body : Text) : Refusal :=
  match RefusalClass.ofStatus status with
  | .server | .unexpected => ⟨status, operation, body⟩
  | _ => ⟨status, operation, ""⟩

/-- The report of a refusal. -/
def message (refusal : Refusal) : Text :=
  let operation := refusal.operation
  match refusal.kind with
  | .authentication => "authentication failed for " ++ operation ++ ": check your token"
  | .access => "access denied for " ++ operation ++ ": insufficient permissions"
  | .missing => "resource not found for " ++ operation ++ ": check URL and resource exists"
  | .rateLimit => "rate limit exceeded for " ++ operation ++ ": please retry later"
  | .server => "internal server error for " ++ operation ++ ": " ++ refusal.body
  | .unexpected =>
    "gitea API returned status " ++ toString refusal.status ++ " for " ++ operation
      ++ ": " ++ refusal.body

end Refusal

/-- What is wrong with the content of a successful answer. -/
inductive Malformation where
  | notJson (operation report : String)
  | jobs (endpoint : Text) (value : Value)
  | job (value : Value)
  | repositories (endpoint : Text) (value : Value)
  | repository (value : Value)
  | repositoryName (value : Value)

/-- The report of a malformed answer. -/
def Malformation.message : Malformation → Text
  | .notJson operation report => operation ++ ": invalid JSON response: " ++ report
  | .jobs endpoint value =>
    "unexpected jobs response from " ++ endpoint ++ ": " ++ value.literal
  | .job value => "job entry without an id: " ++ value.literal
  | .repositories endpoint value =>
    "unexpected repositories response from " ++ endpoint ++ ": " ++ value.literal
  | .repository value => "unexpected repository entry: " ++ value.literal
  | .repositoryName value => "repository entry without owner/name: " ++ value.literal

/-! ## Values of the wrong kind -/

/-- A value of a kind that an operation has no use for. -/
inductive Clash where
  | notIterable (value : Value)
  | notContainer (value : Value)
  | noKey (value : Value)
  | noVariableName (value : Value)

/-- The report of a value of the wrong kind. -/
def Clash.message : Clash → String
  | .notIterable value => "'" ++ value.kindName ++ "' object is not iterable"
  | .notContainer value => "argument of type '" ++ value.kindName ++ "' is not iterable"
  | .noKey value => "unhashable type: '" ++ value.kindName ++ "'"
  | .noVariableName value => "str expected, not " ++ value.kindName

/-! ## Failures -/

/-- A time that has no date. -/
inductive DateFault where
  | notANumber
  | beyondPlatform
  | beyondCalendar
  | beyondStamp
  | yearOutOfRange (year : Int)
  deriving DecidableEq, Repr

/-- The report of a time that has no date. -/
def DateFault.message : DateFault → String
  | .notANumber => "Invalid value NaN (not a number)"
  | .beyondPlatform => "timestamp out of range for platform time_t"
  | .beyondCalendar => "[Errno 75] Value too large for defined data type"
  | .beyondStamp => "signed integer is greater than maximum"
  | .yearOutOfRange year => "year " ++ toString year ++ " is out of range"

/-- The ways in which the service's work can fail. -/
inductive Failure where
  | refused (refusal : Refusal)
  | unreachable (operation : String) (reason : Text)
  | malformed (malformation : Malformation)
  | cancelledBefore (operation : String)
  | cancelledStarting (pool : Text)
  | listingFailed (pool reason : Text)
  | startFailed (runner reason : Text)
  | unknownScope (scope : Value)
  | unknownMatcher (word : Text)
  | lifetimeNotPositive
  | workersNotPositive
  | clash (reason : Clash)
  | noAttribute (value : Value) (member : String)
  | noDate (fault : DateFault)
  | noOctets (fault : Text.Utf8.EncodingFault)
  | tooManyDigits
  | waitTooLong
  | tooDeep (nest : Json.Nest)
  | file (fault : FileFault)
  | outside (fault : Fault)

namespace Failure

/-- The title of a failure that the service expects. -/
def title? : Failure → Option String
  | .refused refusal => some refusal.kind.title
  | .unreachable _ _ => some "TransportError"
  | .malformed _ => some "DecodeError"
  | .cancelledBefore _ | .cancelledStarting _ => some "PassCancelled"
  | .listingFailed _ _ | .startFailed _ _ => some "LaunchError"
  | _ => none

/-- Whether the container engine failed at something it was asked to do. -/
def ofEngine : Failure → Bool
  | .listingFailed _ _ | .startFailed _ _ => true
  | _ => false

/-- Whether a failure at a file is one that the system reports. -/
def ofSystem : Failure → Bool
  | .file fault => fault.isOfSystem
  | _ => false

/-- The report of a failure. -/
def message : Failure → Text
  | .refused refusal => refusal.message
  | .unreachable operation reason => operation ++ " failed: " ++ reason
  | .malformed malformation => malformation.message
  | .cancelledBefore operation => "cancelled before " ++ operation
  | .cancelledStarting pool => "Pool " ++ pool ++ ": cancelled while starting runners"
  | .listingFailed pool reason =>
    "Failed to list runners for pool " ++ pool ++ ": " ++ reason
  | .startFailed runner reason => "Failed to start runner " ++ runner ++ ": " ++ reason
  | .unknownScope scope => "unknown scope: " ++ scope.plain
  | .unknownMatcher word =>
    "Unknown label matcher '" ++ word ++ "' (expected one of: "
      ++ commaSeparated Matcher.names ++ ")"
  | .lifetimeNotPositive => "ttl must be > 0"
  | .workersNotPositive => "max_workers must be greater than 0"
  | .clash reason => reason.message
  | .noAttribute value member =>
    "'" ++ value.kindName ++ "' object has no attribute '" ++ member ++ "'"
  | .noDate fault => fault.message
  | .noOctets fault => fault.message
  | .tooManyDigits => Number.unwritableMessage
  | .waitTooLong => "timestamp too large to convert to C _PyTime_t"
  | .tooDeep nest => (Json.Fault.tooDeep nest).message
  | .file fault => fault.message
  | .outside fault => fault.message

end Failure

/-! ## Operations on values that may clash -/

/-- The key of a value. -/
def Value.key (value : Value) : Except Failure Key :=
  match value.key? with
  | some key => .ok key
  | none => .error (.clash (.noKey value))

/-- What iterating over a value yields: the items of a list, the code points of a
text, the field names of an object. -/
def Value.elements : Value → Except Failure (List Value)
  | .list items => .ok items
  | .text content => .ok (content.map fun point => .text [point])
  | .object fields => .ok (fields.map fun field => .text field.1)
  | value => .error (.clash (.notIterable value))

/-- The matcher that a setting names. -/
def Matcher.ofName (word : Text) : Except Failure Matcher :=
  match Matcher.ofName? word with
  | some matcher => .ok matcher
  | none => .error (.unknownMatcher word)

end RunnerFleet
