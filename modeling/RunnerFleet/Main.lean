import RunnerFleet.Service
import Std.Time.DateTime.Timestamp

/-!
# The command line

The command runs the service in its process: the variables of the environment,
the files, the clock and the waiting are the process's own.  It has no network
and no container engine, so every call on a forge or an engine fails as
unreachable, which the service reports and survives.

Everything that is decided is decided by the modules that this one runs; here
are only the reading and the writing.
-/

namespace RunnerFleet.Command

/-- The variables that settings and the definition of a single pool are read
from. -/
def variableNames : List String :=
  ["LOG_LEVEL", "POLL_INTERVAL", "REQUEST_TIMEOUT", "PAGE_SIZE", "MAX_WORKERS", "SPAWN_TTL",
    "DEFAULT_RUNNER_LABELS", "LABEL_MATCHING", "RUNNER_IMAGE", "RUNNER_NETWORK", "STATUS_FILE",
    "RUNNER_POOLS_FILE", "POOL_NAME", "SCOPE", "GITEA_URL", "MAX_ACTIVE_RUNNERS", "LABELS",
    "ORG", "GITEA_USER", "REPO", "AUTH_TOKEN_ENV", "REGISTRATION_TOKEN_ENV"]

/-- The variables that hold the credentials of pools. -/
def credentialNames (pools : List Pool) : List String :=
  (pools.flatMap fun pool => [pool.authVariable, pool.registrationVariable]).filterMap
    fun value =>
      match value with
      | .text name => name.toString?
      | _ => none

/-- An outside on which nothing can be reached. -/
def unreachable : Outside where
  limits := .common
  serve _ _ := .fault ⟨.transport, "no network", "no network"⟩
  connectFault _ := some ⟨.engine, "no engine", "no container engine"⟩
  listFault _ := none
  runFault _ := none
  publishFault _ := none
  settle _ containers := containers
  clockAfter _ clock := clock
  interrupts _ := false
  signal := 15
  choice _ := 0

/-- The variables of the process that have the given names. -/
def readEnvironment (names : List String) : IO Environment := do
  let found ← names.mapM fun name => do
    return (← IO.getEnv name).map fun content => (Text.ofString name, Text.ofString content)
  return found.filterMap id

/-- The time on the process's clock. -/
def readClock : IO Float := do
  let time ← Std.Time.Timestamp.now
  return Float.ofInt time.toNanosecondsSinceUnixEpoch.val / 1000000000.0

/-- The location that a text names as it stands, if it spells a path. -/
def plainLocation? (path : Text) : Option Location :=
  (Path.ofText path).toOption.map Path.plainLocation

/-- The file at a path, if it can be read. -/
def readFile (path : Text) : IO (List (Location × List UInt8)) := do
  try
    let content ← IO.FS.readBinFile path.shown
    return (plainLocation? path).toList.map fun location => (location, content.toList)
  catch _ =>
    return []

/-- The folder in which the statuses are published. -/
def statusFolder (environment : Environment) : List Location :=
  ((environment.content? "STATUS_FILE").bind plainLocation?).toList.map List.dropLast

/-- Write the files that differ from those of another directory. -/
def writeFiles (directory before : Directory) : IO Unit :=
  (directory.changesSince before).forM fun (location, content) => do
    let path := location.path
    let aside := asidePath path
    IO.FS.writeBinFile aside.shown ⟨content.toArray⟩
    IO.FS.rename aside.shown path.shown

/-- Do something in a world whose clock shows the process's time, and print what
it logs. -/
def perform {Answer : Type} (threshold : Nat) (act : Act Answer) (world : World) :
    IO (Answer × World) := do
  let clock ← readClock
  let (answer, after) := act.run { world with clock, history := [], log := [] }
  let stamp := (Timestamp.logText clock).toOption.getD ""
  (visibleFrom threshold after.log).forM fun line =>
    IO.println (line.stamped stamp).shown
  writeFiles after.directory world.directory
  return (answer, after)

/-- Let the process sleep for a number of seconds, a day at a time. -/
def sleep (seconds : Nat) : IO Unit := do
  let day := 86400
  for _ in [0:seconds / day] do
    IO.sleep (day * 1000).toUInt32
  IO.sleep (seconds % day * 1000).toUInt32

/-- Let the process wait as long as the waits among the calls take. -/
def sleepThrough (history : List Call) : IO Unit :=
  history.forM fun made =>
    match made with
    | .wait seconds => sleep seconds.toNat
    | _ => pure ()

/-- Advance round by round until the process is stopped or the rounds are over. -/
partial def workFrom
    (settings : Settings)
    (pools : List Pool)
    (fleet : Fleet)
    (world : World) : IO UInt32 := do
  -- The stop signal ends the process, so no wait of the world may be its last one.
  let world := { world with waitsLeft := 2 }
  match ← perform settings.threshold (fleet.advance settings pools none 0) world with
  | (.ended ⟨_, failure?⟩, _) =>
    failure?.forM fun failure => IO.eprintln failure.message.shown
    return if failure?.isSome then 1 else 0
  | (.onward fleet, world) =>
    sleepThrough world.history
    workFrom settings pools fleet world

/-- Start the service; the answer is the code with which the process exits. -/
def start : IO UInt32 := do
  let configured ← readEnvironment variableNames
  let files ←
    match Pool.filePath? configured with
    | some path => readFile path
    | none => pure []
  let directory := Directory.ofContents files (statusFolder configured)
  let nesting := unreachable.limits.fileNesting
  let pools := (Pool.load nesting configured directory).toOption.getD []
  let credentials ← readEnvironment (credentialNames pools)
  let environment := configured ++ credentials
  match Settings.ofEnvironment environment with
  | .error fault =>
    IO.eprintln (fault.message)
    return 1
  | .ok settings =>
    let world : World :=
      { outside := unreachable
        environment
        clock := 0.0
        containers := []
        directory
        requestsLeft := 0
        waitsLeft := 0 }
    match ← perform settings.threshold (Service.prepare settings) world with
    | (.error ending, _) =>
      IO.eprintln ending.message.shown
      return 1
    | (.ok pools, world) =>
      match Provisioner.ofPools settings environment settings.launcher pools with
      | .error failure =>
        IO.eprintln failure.message.shown
        return 1
      | .ok provisioners =>
        workFrom settings pools (Fleet.start pools provisioners) world

end RunnerFleet.Command

/-- Run the service. -/
def main : IO UInt32 :=
  RunnerFleet.Command.start
