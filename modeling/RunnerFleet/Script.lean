import RunnerFleet.Outside

/-!
# Scripted outsides

An outside that follows a script: what the server answers is looked up in a list
of routes, calls fail by their number, every request and every start takes a
fixed time, and the stop signal arrives during a chosen call.
-/

namespace RunnerFleet

/-- What a server answers to some requests: to those that agree with all the
fields that are given.  A field that is given as null agrees with a parameter that
a request lacks. -/
structure Route where
  url : Option Value
  status : Option Value
  page : Option Value
  reply : Reply

/-- Whether an expected parameter, if there is one, is the same as the given
one. -/
def agrees (expected : Option Value) (given : Value) : Bool :=
  match expected with
  | none => true
  | some value => given.key? == value.key?

/-- Whether a route answers a request. -/
def Route.answers (route : Route) (request : Request) : Bool :=
  agrees route.url (.text request.url)
    && agrees route.status (Fields.get request.query "status")
    && agrees route.page (Fields.get request.query "page")

/-- The kinds of calls, as far as they are counted. -/
inductive CallKind where
  | ask
  | list
  | run
  | wait
  deriving DecidableEq, Repr

/-- The kind of a call. -/
def Call.kind : Call → CallKind
  | .ask _ => .ask
  | .list _ => .list
  | .run _ => .run
  | .wait _ => .wait

/-- The call during which the stop signal arrives: its kind, and its number
among the calls of that kind. -/
structure Trigger where
  kind : CallKind
  number : Nat

/-- A script for an outside. -/
structure Script where
  limits : Limits := .common
  routes : List Route := []
  connectFault : Option Fault := none
  listFaults : List (Nat × Fault) := []
  runFaults : List (Nat × Fault) := []
  requestTakes : Float := 0.0
  startTakes : Float := 0.0
  triggers : List Trigger := []
  signal : Int := 15
  choices : List Int := []

namespace Script

/-- How many calls of a kind a history holds. -/
def count (kind : CallKind) (history : List Call) : Nat :=
  history.countP (·.kind == kind)

/-- Whether the last call of a history is the one of a trigger. -/
def fires (history : List Call) (trigger : Trigger) : Bool :=
  match history.getLast? with
  | none => false
  | some last => last.kind == trigger.kind && count trigger.kind history == trigger.number

/-- What a server without a route for a request answers: no jobs, or an empty
list. -/
def emptyAnswer (request : Request) : Reply :=
  if (Text.ofString "/actions/jobs").isSuffixOf request.url then
    .answer 200 "\x7b\"total_count\": 0, \"jobs\": []\x7d"
  else
    .answer 200 "[]"

/-- The outside that follows a script. -/
def outside (script : Script) : Outside where
  limits := script.limits
  serve _ request :=
    match script.routes.find? (·.answers request) with
    | some route => route.reply
    | none => emptyAnswer request
  connectFault _ := script.connectFault
  listFault history := script.listFaults.lookup (count .list history)
  runFault history := script.runFaults.lookup (count .run history)
  publishFault _ := none
  settle _ containers := containers
  clockAfter history clock :=
    match history.getLast? with
    | some (.ask _) => clock + script.requestTakes
    | some (.run _) => clock + script.startTakes
    | some (.wait seconds) => clock + Float.ofInt seconds
    | _ => clock
  interrupts history := script.triggers.any (fires history)
  signal := script.signal
  choice index := (script.choices[index % script.choices.length]?).getD 0

end Script

/-- Continue a world under another script: history and log start anew. -/
def World.follow (world : World) (script : Script) : World :=
  { world with
    outside := script.outside
    stopped := false
    history := []
    log := [] }

end RunnerFleet
