import RunnerFleet.Directory
import RunnerFleet.Log
import RunnerFleet.Pool

/-!
# The outside

The service calls on a forge's server, on a container engine and on a clock for
waiting.  The outside decides what becomes of a call: it is a collection of
functions of the history, the list of all calls up to and including the one
being served.  So a server may change between two requests, an engine may fail
at any moment, and a stop signal may arrive during any call.

A world is an outside together with what there is at one moment: the clock, the
containers, the files, the variables of the environment, the history so far,
and the log.  Every world serves a limited number of requests and of waits.
-/

namespace RunnerFleet

/-! ## Calls -/

/-- A request to the forge for one page of a listing. -/
structure Request where
  url : Text
  status : Option String
  page : Nat
  limit : Int
  token : Text
  timeout : Value

namespace Request

/-- The query parameters of a request. -/
def query (request : Request) : Fields :=
  let paging : Fields := [("page", .int request.page), ("limit", .int request.limit)]
  match request.status with
  | some status => ("status", .text status) :: paging
  | none => paging

/-- The headers of a request. -/
def headers (request : Request) : Fields :=
  [("Authorization", .text ("token " ++ request.token)), ("Accept", .text "application/json")]

end Request

/-- A runner container to be started. -/
structure RunnerSpec where
  name : Text
  image : Text
  environment : List (Text × Text)
  labels : List (Text × Text)
  network : Option Text
  deriving DecidableEq, Repr

/-- A call on the outside. -/
inductive Call where
  /-- Ask the forge. -/
  | ask (request : Request)
  /-- List the runner containers of a pool. -/
  | list (pool : Text)
  /-- Start a runner container. -/
  | run (runner : RunnerSpec)
  /-- Wait for a number of seconds. -/
  | wait (seconds : Int)

/-- What comes back from a request. -/
inductive Reply where
  | answer (status : Int) (body : Text)
  | fault (fault : Fault)

/-- A runner container: its pool and its state. -/
structure Container where
  pool : Text
  state : Text
  deriving DecidableEq, Repr

/-- The label by which the containers of a pool are found. -/
def poolLabel : Text := "gitea.runner-pool"

/-- The pool that a runner's labels name. -/
def RunnerSpec.pool (runner : RunnerSpec) : Text :=
  (runner.labels.lookup poolLabel).getD ""

/-! ## Outsides and worlds -/

/-- What the machine allows that runs the service: how deep lists and objects may be nested
in an answer of the forge and in a file, and how many seconds a wait may take. -/
structure Limits where
  answerNesting : Nat
  fileNesting : Nat
  longestWait : Int

/-- The limits of a common machine: no wait takes more nanoseconds than a counter with 64
bits can hold. -/
def Limits.common : Limits where
  answerNesting := 985
  fileNesting := 990
  longestWait := 9223372036

/-- What becomes of calls. -/
structure Outside where
  limits : Limits
  /-- What the server answers to the request that ends the history. -/
  serve : List Call → Request → Reply
  /-- Why the container engine cannot be reached after the history. -/
  connectFault : List Call → Option Fault
  /-- Why the listing that ends the history fails. -/
  listFault : List Call → Option Fault
  /-- Why the start that ends the history fails. -/
  runFault : List Call → Option Fault
  /-- How the system fails at a publication after the history, apart from what the files
  and folders themselves forbid. -/
  publishFault : List Call → Option PublishFault
  /-- What becomes of the containers by themselves during the last call. -/
  settle : List Call → List Container → List Container
  /-- What the clock shows after the last call. -/
  clockAfter : List Call → Float → Float
  /-- Whether the stop signal arrives during the last call. -/
  interrupts : List Call → Bool
  /-- The number of the stop signal. -/
  signal : Int
  /-- The outcomes of random choices, each to be taken modulo the number of
  alternatives. -/
  choice : Nat → Int

/-- Whether a wait is refused because it is longer than the machine allows.  Once the stop
signal has arrived none is: it ends at once. -/
def Outside.refusesWait (outside : Outside) (stopped : Bool) (seconds : Int) : Bool :=
  !stopped && outside.limits.longestWait < seconds

/-- An outside and what there is at one moment. -/
structure World where
  outside : Outside
  environment : Environment
  clock : Float
  containers : List Container
  directory : Directory
  /-- How many more requests are served. -/
  requestsLeft : Nat
  /-- How many more waits there are; the last one brings the stop. -/
  waitsLeft : Nat
  /-- How many random choices were made. -/
  choices : Nat := 0
  /-- Whether the container engine was reached. -/
  connected : Bool := false
  /-- Whether the stop signal has arrived. -/
  stopped : Bool := false
  /-- Whether the arrival of the stop signal is logged. -/
  announcing : Bool := false
  history : List Call := []
  log : List LogLine := []

/-- Work that depends on the world and changes it. -/
abbrev Act := StateM World

/-- Work that may fail; what was done before the failure stays done. -/
abbrev Attempt := ExceptT Failure Act

namespace World

/-- The world after a call was made: it is in the history, and the clock, the
containers and the stop signal are what the outside makes of it. -/
def call (world : World) (made : Call) : World :=
  let history := world.history ++ [made]
  let interrupted := world.outside.interrupts history
  { world with
    history
    clock := world.outside.clockAfter history world.clock
    containers := world.outside.settle history world.containers
    stopped := world.stopped || interrupted
    log :=
      if interrupted && world.announcing then
        world.log ++
          [⟨.info, "Received signal " ++ toString world.outside.signal ++ ", stopping"⟩]
      else
        world.log }

@[simp]
theorem history_call (world : World) (made : Call) :
    (world.call made).history = world.history ++ [made] :=
  rfl

@[simp]
theorem outside_call (world : World) (made : Call) :
    (world.call made).outside = world.outside :=
  rfl

@[simp]
theorem stopped_call (world : World) (made : Call) :
    (world.call made).stopped =
      (world.stopped || world.outside.interrupts (world.history ++ [made])) :=
  rfl

end World

/-! ## Acts -/

/-- Write lines to the log. -/
def noteAll (lines : List LogLine) : Act Unit :=
  modify fun world => { world with log := world.log ++ lines }

/-- Write a line to the log. -/
def note (level : Level) (message : Text) : Act Unit :=
  noteAll [⟨level, message⟩]

/-- The time on the clock. -/
def now : Act Float :=
  return (← get).clock

/-- Whether the stop signal has arrived. -/
def isStopped : Act Bool :=
  return (← get).stopped

/-- What the machine allows. -/
def limits : Act Limits :=
  return (← get).outside.limits

/-- Draw one of a number of alternatives. -/
def draw (alternatives : Nat) : Act Nat := do
  let world ← get
  set { world with choices := world.choices + 1 }
  return (world.outside.choice world.choices).emod alternatives |>.toNat

/-- The fault of a request that is not served any more. -/
def requestLimitReached : Fault :=
  ⟨.transport, "request limit", "request limit reached"⟩

/-- Ask the forge. -/
def ask (request : Request) : Act Reply := do
  let world := (← get).call (.ask request)
  match world.requestsLeft with
  | 0 =>
    set world
    return .fault requestLimitReached
  | left + 1 =>
    set { world with requestsLeft := left }
    return world.outside.serve world.history request

/-- Reach the container engine; once reached it stays so. -/
def connect : Act (Option Fault) := do
  let world ← get
  if world.connected then
    return none
  else
    match world.outside.connectFault world.history with
    | some fault => return some fault
    | none =>
      set { world with connected := true }
      return none

/-- The states of the containers of a pool. -/
def listContainers (pool : Text) : Act (Except Fault (List Text)) := do
  match ← connect with
  | some fault => return .error fault
  | none =>
    let world := (← get).call (.list pool)
    set world
    match world.outside.listFault world.history with
    | some fault => return .error fault
    | none => return .ok ((world.containers.filter (·.pool == pool)).map (·.state))

/-- Start a runner container; if that succeeds there is one more running. -/
def runContainer (runner : RunnerSpec) : Act (Except Fault Unit) := do
  match ← connect with
  | some fault => return .error fault
  | none =>
    let world := (← get).call (.run runner)
    match world.outside.runFault world.history with
    | some fault =>
      set world
      return .error fault
    | none =>
      let started : Container := ⟨runner.pool, "running"⟩
      set { world with containers := world.containers ++ [started] }
      return .ok ()

/-- Wait for a number of seconds.  A wait that is refused fails once it is in the history,
and nothing happens during it. -/
def wait (seconds : Int) : Attempt Unit := do
  let world ← get
  if world.outside.refusesWait world.stopped seconds then
    set { world with history := world.history ++ [Call.wait seconds] }
    throw .waitTooLong
  else
    let world := world.call (.wait seconds)
    let left := world.waitsLeft - 1
    set { world with waitsLeft := left, stopped := world.stopped || left == 0 }

end RunnerFleet
