import RunnerFleet.Settings
import RunnerFleet.Status

/-!
# Rounds

The service works in rounds.  In every round each pool has one pass, in the
order of the pools, and then the statuses are published; between rounds the
service waits.  It ends when the stop signal has arrived at the start of a
round, or after a given number of rounds.

A failure between two passes ends the rounds as well; what the pools' passes left
before it is kept.
-/

namespace RunnerFleet

/-- What the service keeps between passes: a provisioner and a status under every
pool's name. -/
structure Fleet where
  provisioners : List (Text × Provisioner)
  statuses : List (Text × PoolStatus)

/-- A fleet as work left it, and the failure that ended the work early, if one
did. -/
structure FleetEnd where
  fleet : Fleet
  failure? : Option Failure

namespace Provisioner

/-- The provisioner of a pool under given settings. -/
def ofPool
    (settings : Settings)
    (environment : Environment)
    (launcher : Launcher)
    (pool : Pool) : Except Failure Provisioner := do
  let token ← pool.authToken environment
  let matcher ← Matcher.ofName settings.labelMatching
  let forge := Forge.ofUrl pool.url (token.getD "") (.real settings.requestTimeout)
    settings.pageSize matcher
  match Ledger.ofLifetime? settings.lifetime with
  | none => throw .lifetimeNotPositive
  | some ledger => pure { forge, launcher, ledger, defaults := settings.defaultLabels }

/-- The provisioners of pools by their names; of several pools with one name the
last one's counts. -/
def ofPools
    (settings : Settings)
    (environment : Environment)
    (launcher : Launcher) : List Pool → Except Failure (List (Text × Provisioner))
  | pools => do
    let named ← pools.mapM fun pool => do
      let provisioner ← ofPool settings environment launcher pool
      pure (pool.name, provisioner)
    pure (Table.ofPairs named)

end Provisioner

namespace Fleet

/-- A fleet before its first round. -/
def start (pools : List Pool) (provisioners : List (Text × Provisioner)) : Fleet where
  provisioners := provisioners
  statuses := Table.ofPairs (pools.map fun pool => (pool.name, {}))

/-- The pass of one pool within a round. -/
def visit (fleet : Fleet) (pool : Pool) : Act Fleet := do
  match fleet.provisioners.lookup pool.name with
  | none => return fleet
  | some provisioner =>
    let status := (fleet.statuses.lookup pool.name).getD {}
    let (provisioner, status, _) ← provisioner.reconcile pool status
    let provisioners := Table.put pool.name provisioner fleet.provisioners
    let statuses := Table.put pool.name status fleet.statuses
    return { provisioners, statuses }

/-- The passes of pools, one after another. -/
def visitAll (fleet : Fleet) : List Pool → Act Fleet
  | [] => return fleet
  | pool :: rest => do
    let fleet ← fleet.visit pool
    fleet.visitAll rest

/-- Attempt something; the fleet stays what it is, also if the attempt fails. -/
def attempting (fleet : Fleet) (attempt : Attempt Unit) : Act FleetEnd := do
  match ← attempt.run with
  | .ok () => return ⟨fleet, none⟩
  | .error failure => return ⟨fleet, some failure⟩

/-- One round: a pass of every pool, and the publication of the statuses if a
file is configured for them. -/
def round (fleet : Fleet) (settings : Settings) (pools : List Pool) : Act FleetEnd := do
  let fleet ← fleet.visitAll pools
  match settings.statusFile.filter (!·.isEmpty) with
  | some path => fleet.attempting (publish path (statusDocument fleet.statuses))
  | none => return ⟨fleet, none⟩

/-- What a round comes to that may be the last one: the rounds are over, or they go on. -/
inductive Progress where
  | ended (ending : FleetEnd)
  | onward (fleet : Fleet)

/-- One round, if the stop signal has not arrived, and the wait after it, unless a failure
or the given number of rounds makes it the last one. -/
def advance
    (fleet : Fleet)
    (settings : Settings)
    (pools : List Pool)
    (limit : Option Int)
    (completed : Int) : Act Progress := do
  if ← isStopped then
    return .ended ⟨fleet, none⟩
  let worked ← fleet.round settings pools
  if worked.failure?.isSome || limit.any (· ≤ completed + 1) then
    return .ended worked
  let waited ← worked.fleet.attempting (wait settings.pollInterval)
  if waited.failure?.isSome then
    return .ended waited
  return .onward waited.fleet

/-- Rounds until the stop signal has arrived, a failure ends them, or the given
number of rounds is complete.  The bound is the number of waits after which the
world brings the stop signal. -/
def roundsFrom
    (settings : Settings)
    (pools : List Pool)
    (limit : Option Int) : Nat → Int → Fleet → Act FleetEnd
  | 0, _, fleet => return ⟨fleet, none⟩
  | bound + 1, completed, fleet => do
    match ← fleet.advance settings pools limit completed with
    | .ended ending => return ending
    | .onward fleet => roundsFrom settings pools limit bound (completed + 1) fleet

/-- All rounds of a fleet. -/
def rounds
    (fleet : Fleet)
    (settings : Settings)
    (pools : List Pool)
    (limit : Option Int) : Act FleetEnd := do
  roundsFrom settings pools limit ((← get).waitsLeft + 1) 0 fleet

end Fleet

/-- Whether there is room for at least one worker: no more workers than pools are
asked for, and zero counts as one. -/
def hasWorkers (settings : Settings) (pools : List Pool) : Bool :=
  0 ≤ min settings.maxWorkers (pools.length : Int)

/-- Run the service over pools, with provisioners made before or now.  Without
provisioners or workers there is no round, and no fleet either. -/
def patrol
    (settings : Settings)
    (pools : List Pool)
    (launcher : Launcher)
    (prebuilt : Option (List (Text × Provisioner)))
    (limit : Option Int) : Attempt FleetEnd := do
  let provisioners ←
    match prebuilt with
    | some provisioners => pure provisioners
    | none =>
      let environment := (← get).environment
      liftExcept (Provisioner.ofPools settings environment launcher pools)
  if hasWorkers settings pools then
    (Fleet.start pools provisioners).rounds settings pools limit
  else
    throw .workersNotPositive

end RunnerFleet
