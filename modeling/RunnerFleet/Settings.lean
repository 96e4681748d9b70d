import RunnerFleet.Label
import RunnerFleet.Log
import RunnerFleet.Number.Reading
import RunnerFleet.Pool
import RunnerFleet.Runner
import RunnerFleet.Text.Uppercase

/-!
# Settings

What the service is told by variables of its environment.  Every variable may be
missing, and then a default holds; a variable that should be a number must be
the text of one.  Settings that were read may still violate a condition, which
is examined separately.
-/

namespace RunnerFleet

/-- What the service is told. -/
structure Settings where
  logLevel : Text
  threshold : Nat
  pollInterval : Int
  requestTimeout : Float
  pageSize : Int
  maxWorkers : Int
  lifetime : Float
  defaultLabels : List Text
  labelMatching : Text
  runnerImage : Text
  runnerNetwork : Option Text
  statusFile : Option Text

/-- Why settings cannot be read.  Two names that a threshold of the log might have
are taken by other things, one by a text and one by a table. -/
inductive SettingFault where
  | number (fault : Number.ReadFault)
  | levelIsText
  | levelIsTable
  deriving DecidableEq, Repr

/-- The report of settings that cannot be read. -/
def SettingFault.message : SettingFault → String
  | .number fault => fault.message
  | .levelIsText => "Unknown level: '%(levelname)s:%(name)s:%(message)s'"
  | .levelIsTable => "Level not an integer or a valid string"

/-- A condition that settings violate. -/
inductive SettingViolation where
  | pollInterval
  | requestTimeout
  | pageSize
  | maxWorkers
  | lifetime
  | labelMatching
  deriving DecidableEq, Repr

/-- The report of a violated condition. -/
def SettingViolation.message : SettingViolation → String
  | .pollInterval => "POLL_INTERVAL must be > 0"
  | .requestTimeout => "REQUEST_TIMEOUT must be > 0"
  | .pageSize => "PAGE_SIZE must be >= 1"
  | .maxWorkers => "MAX_WORKERS must be >= 1"
  | .lifetime => "SPAWN_TTL must be > 0"
  | .labelMatching => "LABEL_MATCHING must be one of: " ++ commaSeparated Matcher.names

namespace Settings

/-- The thresholds of the log by name. -/
def thresholds : List (Text × Nat) :=
  [("NOTSET", 0), ("DEBUG", 10), ("INFO", 20), ("WARN", 30), ("WARNING", 30),
    ("ERROR", 40), ("CRITICAL", 50), ("FATAL", 50)]

/-- The threshold that a name stands for.  Apart from the two taken names, an
unknown name counts as `INFO`. -/
def thresholdOf (name : Text) : Except SettingFault Nat :=
  if name == "BASIC_FORMAT" then .error .levelIsText
  else if name == "_STYLES" then .error .levelIsTable
  else .ok ((thresholds.lookup name).getD 20)

/-- The integer that a variable holds. -/
def integerOf
    (environment : Environment)
    (name default : Text) : Except SettingFault Int :=
  (Number.readInteger ((environment.content? name).getD default)).mapError .number

/-- The real that a variable holds. -/
def realOf
    (environment : Environment)
    (name default : Text) : Except SettingFault Float :=
  (Number.readReal ((environment.content? name).getD default)).mapError .number

/-- The settings that an environment holds; the first variable that cannot be
read is reported. -/
def ofEnvironment (environment : Environment) : Except SettingFault Settings := do
  let text (name default : Text) : Text := (environment.content? name).getD default
  let logLevel := Text.uppercase (text "LOG_LEVEL" "INFO")
  let threshold ← thresholdOf logLevel
  let pollInterval ← integerOf environment "POLL_INTERVAL" "10"
  let requestTimeout ← realOf environment "REQUEST_TIMEOUT" "30"
  let pageSize ← integerOf environment "PAGE_SIZE" "50"
  let maxWorkers ← integerOf environment "MAX_WORKERS" "4"
  let lifetime ← realOf environment "SPAWN_TTL" "300"
  let defaultLabels :=
    match environment.content? "DEFAULT_RUNNER_LABELS" with
    | some labels => Label.parse labels
    | none => Label.standard
  pure
    { logLevel
      threshold
      pollInterval
      requestTimeout
      pageSize
      maxWorkers
      lifetime
      defaultLabels
      labelMatching := text "LABEL_MATCHING" "schema"
      runnerImage := text "RUNNER_IMAGE" Runner.standardImage
      runnerNetwork := (environment.content? "RUNNER_NETWORK").filter (!·.isEmpty)
      statusFile := environment.content? "STATUS_FILE" }

/-- The conditions that settings violate.  A real that is no number violates
none. -/
def violations (settings : Settings) : List SettingViolation :=
  let check (violated : Bool) (violation : SettingViolation) : List SettingViolation :=
    if violated then [violation] else []
  check (settings.pollInterval ≤ 0) .pollInterval
    ++ check (settings.requestTimeout ≤ 0.0) .requestTimeout
    ++ check (settings.pageSize < 1) .pageSize
    ++ check (settings.maxWorkers < 1) .maxWorkers
    ++ check (settings.lifetime ≤ 0.0) .lifetime
    ++ check (Matcher.ofName? settings.labelMatching).isNone .labelMatching

/-- The way runners are started. -/
def launcher (settings : Settings) : Launcher :=
  { image := settings.runnerImage, network := settings.runnerNetwork }

/-- What the log tells about settings when the service starts. -/
def lines (settings : Settings) : List Text :=
  ["  Poll interval: " ++ toString settings.pollInterval ++ "s",
    "  Request timeout: " ++ Number.realText settings.requestTimeout ++ "s",
    "  Page size: " ++ toString settings.pageSize,
    "  Spawn TTL: " ++ Number.realText settings.lifetime ++ "s",
    "  Label matching: " ++ settings.labelMatching,
    "  Default labels: " ++ Value.textsLiteral settings.defaultLabels,
    "  Runner image: " ++ settings.runnerImage]

end Settings

end RunnerFleet
