import RunnerFleet.Pool.Source
import RunnerFleet.Pool.Violation
import RunnerFleet.Rounds

/-!
# The service

The service reports its settings, examines them, loads and examines the pools,
and then works in rounds until the stop signal arrives.  Settings or pools that
are not in order are reported one by one, and the service exits.
-/

namespace RunnerFleet

/-- How the service ends. -/
inductive Ending where
  /-- The stop signal arrived. -/
  | completed
  /-- The configuration is not in order. -/
  | exited (code : Nat)
  /-- The pools could not be loaded, in a way that is not reported. -/
  | unloadable (fault : SourceFault)
  /-- Something failed that is not reported. -/
  | failed (failure : Failure)

/-- What is printed about an ending that the log does not tell about. -/
def Ending.message : Ending → Text
  | .completed | .exited _ => ""
  | .unloadable fault => fault.message
  | .failed failure => failure.message

namespace Service

/-- Report what is wrong with the configuration. -/
def reportAll (messages : List Text) : Act Unit :=
  messages.forM fun message => note .error ("Config error: " ++ message)

/-- Report the conditions that settings violate; the answer is the code with
which the service exits. -/
def examineSettings (settings : Settings) : Act (Option Nat) := do
  let violations := settings.violations
  if violations.isEmpty then
    return none
  else
    reportAll (violations.map (·.message))
    return some 1

/-- Load the pools that an environment configures. -/
def loadPools (environment : Environment) : Act (Except SourceFault (List Pool)) := do
  match Pool.load (← limits).fileNesting environment (← get).directory with
  | .error fault => return .error fault
  | .ok pools =>
    match Pool.filePath? environment with
    | some path =>
      note .info ("Loaded " ++ toString pools.length ++ " pool(s) from " ++ path)
    | none => pure ()
    return .ok pools

/-- Load the pools and report what is wrong with them. -/
def preparePools : Act (Except Ending (List Pool)) := do
  let environment := (← get).environment
  match ← loadPools environment with
  | .error fault =>
    if fault.isReported then
      note .error ("Config error: failed to load runner pools: " ++ fault.message)
      return .error (.exited 1)
    else
      return .error (.unloadable fault)
  | .ok pools =>
    match Pool.allViolations environment pools with
    | .error failure => return .error (.failed failure)
    | .ok violations =>
      if violations.isEmpty then
        return .ok pools
      else
        reportAll (violations.map (·.message))
        return .error (.exited 1)

/-- What the log tells about a pool when the service starts. -/
def poolLine (pool : Pool) : Text :=
  "  Pool " ++ pool.name ++ ": " ++ pool.scopeText ++ " on " ++ pool.url ++ ", max "
    ++ toString pool.capacity ++ " runners, labels " ++ Value.textsLiteral pool.labels

/-- Report the settings and the pools, unless they are not in order. -/
def prepare (settings : Settings) : Act (Except Ending (List Pool)) := do
  note .info "Starting Gitea Actions Runner Autoscaler"
  settings.lines.forM fun line => note .info line
  match ← examineSettings settings with
  | some code => return .error (.exited code)
  | none =>
    match ← preparePools with
    | .error ending => return .error ending
    | .ok pools =>
      pools.forM fun pool => note .info (poolLine pool)
      return .ok pools

/-- Work until the stop signal arrives. -/
def run (settings : Settings) : Act Ending := do
  match ← prepare settings with
  | .error ending => return ending
  | .ok pools =>
    modify fun world => { world with announcing := true }
    match ← (patrol settings pools settings.launcher none none).run with
    | .error failure | .ok ⟨_, some failure⟩ => return .failed failure
    | .ok ⟨_, none⟩ =>
      note .info "Autoscaler stopped"
      return .completed

end Service

end RunnerFleet
