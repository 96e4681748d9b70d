import RunnerFleet.Outside

/-!
# Starting runners

A runner is a container that serves one job and is removed afterwards.  Its
name is that of its pool with a random suffix, its labels say to which pool it
belongs, and its environment holds what it needs to register.
-/

namespace RunnerFleet

namespace Runner

/-- The image of a runner where none is configured. -/
def standardImage : Text := "gitea/act_runner:nightly-dind-rootless"

/-- The characters of a suffix. -/
def suffixAlphabet : List Char :=
  "abcdefghijklmnopqrstuvwxyz0123456789".toList

/-- The length of a suffix. -/
def suffixLength : Nat := 8

/-- The variables with which a runner registers. -/
def registration
    (pool : Pool)
    (labels : List Text)
    (token name : Text) : List (Text × Text) :=
  let offered : List (Text × Text) :=
    if labels.isEmpty then [] else [("GITEA_RUNNER_LABELS", Text.joined "," labels)]
  ("GITEA_INSTANCE_URL", pool.url)
    :: ("GITEA_RUNNER_REGISTRATION_TOKEN", token)
    :: ("GITEA_RUNNER_EPHEMERAL", "true")
    :: ("GITEA_RUNNER_NAME", name)
    :: offered

/-- The environment of a runner: what the pool adds, overridden by what the
runner registers with. -/
def environment
    (pool : Pool)
    (labels : List Text)
    (token name : Text) : List (Text × Text) :=
  (registration pool labels token name).foldl
    (fun environment (variableName, content) => Table.put variableName content environment)
    pool.extraEnvironment

/-- The labels of a runner's container. -/
def containerLabels (pool : Pool) : List (Text × Text) :=
  [("app", pool.name), (poolLabel, pool.name), ("gitea.managed-by", "gitea-runner-autoscaler")]

@[simp]
theorem lookup_containerLabels (pool : Pool) :
    (containerLabels pool).lookup poolLabel = some pool.name := by
  simp only [containerLabels, poolLabel, List.lookup_cons]
  split <;> rfl

/-- The states of a container that no longer runs. -/
def finishedStates : List Text :=
  ["exited", "dead"]

/-- Whether a container in a state counts as a live runner. -/
def isLive (state : Text) : Bool :=
  !finishedStates.contains state

end Runner

/-- How runners are started: from an image, possibly in a network. -/
structure Launcher where
  image : Text := Runner.standardImage
  network : Option Text := none

namespace Launcher

/-- The container of a runner. -/
def spec
    (launcher : Launcher)
    (pool : Pool)
    (labels : List Text)
    (token name : Text) : RunnerSpec :=
  { name
    image := launcher.image
    environment := Runner.environment pool labels token name
    labels := Runner.containerLabels pool
    network := launcher.network.filter (!·.isEmpty) }

@[simp]
theorem pool_spec
    (launcher : Launcher)
    (pool : Pool)
    (labels : List Text)
    (token name : Text) :
    (launcher.spec pool labels token name).pool = pool.name := by
  simp [RunnerSpec.pool, spec]

/-- Draw a suffix of a given length. -/
def drawSuffix : Nat → Act (List Char)
  | 0 => pure []
  | length + 1 => do
    let index ← draw Runner.suffixAlphabet.length
    let others ← drawSuffix length
    pure ((Runner.suffixAlphabet[index]?).getD 'a' :: others)

/-- Count the live runners of a pool. -/
def countLive (pool : Pool) : Attempt Nat := do
  match ← listContainers pool.name with
  | .error fault =>
    if fault.origin.isEngine then
      throw (.listingFailed pool.name fault.message)
    else
      throw (.outside fault)
  | .ok states =>
    let live := states.countP Runner.isLive
    note .debug
      ("Pool " ++ pool.name ++ ": " ++ toString live ++ " active of "
        ++ toString states.length ++ " runner container(s)")
    pure live

/-- Start a runner of a pool; its name is the answer. -/
def start
    (launcher : Launcher)
    (pool : Pool)
    (labels : List Text)
    (token : Text) : Attempt Text := do
  let suffix ← drawSuffix Runner.suffixLength
  let name : Text := pool.name ++ "-" ++ suffix.map CodePoint.scalar
  match ← runContainer (launcher.spec pool labels token name) with
  | .error fault =>
    if fault.origin.isEngine then
      throw (.startFailed name fault.message)
    else
      throw (.outside fault)
  | .ok () =>
    note .info ("Started runner container " ++ name ++ " for pool " ++ pool.name)
    pure name

end Launcher

end RunnerFleet
