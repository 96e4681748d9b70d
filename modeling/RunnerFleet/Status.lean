import RunnerFleet.Json.Writer
import RunnerFleet.Pass
import RunnerFleet.Timestamp

/-!
# Statuses

A pool's status is what its latest pass left: how many runners were counted and
when, the figures of its decision, and its error.  The statuses of all pools
are published as one JSON file, which is written aside and then moved into
place, so that a reader never sees a part of it.
-/

namespace RunnerFleet

/-- What the latest pass over a pool left: the live runners as last counted, the
time of that count, the figures of the decision, and the error. -/
structure PoolStatus where
  live : Int := 0
  checkedAt : Option String := none
  decision : Option Summary := none
  error : Option Text := none

namespace PoolStatus

/-- A text that may be missing, as a value. -/
def optionalText : Option Text → Value
  | some content => .text content
  | none => .null

/-- The figures of the latest decision, as fields; none if there was none. -/
def decisionFields (status : PoolStatus) : Fields :=
  match status.decision with
  | some summary => summary.fields
  | none => []

/-- The ids of the jobs for which the latest decision started runners. -/
def startedIds (status : PoolStatus) : List Value :=
  match status.decision with
  | some summary => summary.startedIds
  | none => []

/-- The fields under which a status is published. -/
def fields (status : PoolStatus) : Fields :=
  [("active_runners", .int status.live),
    ("last_check_time", optionalText (status.checkedAt.map Text.ofString)),
    ("last_decision", .object status.decisionFields),
    ("last_error", optionalText status.error)]

/-- The status at the start of a pass: nothing of an earlier pass's decision or
error is left. -/
def cleared (status : PoolStatus) : PoolStatus :=
  { status with decision := none, error := none }

end PoolStatus

/-- The statuses of pools under their names, as they are published. -/
def statusDocument (statuses : List (Text × PoolStatus)) : Fields :=
  statuses.map fun (name, status) => (name, .object status.fields)

/-- The path of the file in which a new document is written aside. -/
def asidePath (path : Text) : Text :=
  path ++ ".tmp"

/-- Write a document aside.  If the system fails while it is written, there is something
else in its place; if an integer ends the writing, what was written before it stays. -/
def Directory.writeAside
    (directory : Directory)
    (path : Text)
    (document : Json.Written)
    (system? : Option PublishFault) : Directory × Option Failure :=
  let content :=
    match system? with
    | some ⟨.writing left, _, _⟩ => left
    | _ => Text.Utf8.encode document.text
  match directory.writeOctets (asidePath path) content with
  | .error fault => (directory, some (.file fault))
  | .ok written =>
    match system? with
    | some ⟨.opening, number, words⟩ =>
      (directory, some (.file { problem := .refused number words, path := asidePath path }))
    | some ⟨.writing _, number, words⟩ =>
      (written, some (.file { problem := .unwritten number words, path := asidePath path }))
    | _ => (written, if document.whole then none else some .tooManyDigits)

/-- Move a document that was written aside into place. -/
def Directory.moveIntoPlace
    (directory : Directory)
    (path : Text)
    (system? : Option PublishFault) : Directory × Option Failure :=
  match directory.replace (asidePath path) path with
  | .error fault => (directory, some (.file fault))
  | .ok moved =>
    match system? with
    | some ⟨.moving, number, words⟩ =>
      (directory, some (.file ⟨.refused number words, asidePath path, some path⟩))
    | _ => (moved, none)

/-- Write a document aside and move it into place.  If the move fails the
document stays aside. -/
def Directory.publish
    (directory : Directory)
    (path : Text)
    (document : Json.Written)
    (system? : Option PublishFault) : Directory × Option Failure :=
  match directory.writeAside path document system? with
  | (written, some failure) => (written, some failure)
  | (written, none) => written.moveIntoPlace path system?

/-- Publish a document.  A failure of the system is logged and has no other
effect; a path that cannot be handed to the system, and an integer with too many
digits, are failures of the publication. -/
def publish (path : Text) (document : Fields) : Attempt Unit := do
  let world ← get
  let (directory, failure?) :=
    world.directory.publish path (Json.write (.object document))
      (world.outside.publishFault world.history)
  set { world with directory }
  match failure? with
  | none => pure ()
  | some failure =>
    if failure.ofSystem then
      note .warning ("Failed to write status file " ++ path ++ ": " ++ failure.message)
    else
      throw failure

namespace Provisioner

/-- Count a pool's live runners and enter them in its status, together with the
time. -/
def observe (pool : Pool) (status : PoolStatus) : Act (PoolStatus × Except Failure Nat) := do
  match ← (Launcher.countLive pool).run with
  | .error failure => return (status, .error failure)
  | .ok active =>
    let status := { status with live := active }
    match Timestamp.isoText (← now) with
    | .error fault => return (status, .error (.noDate fault))
    | .ok time =>
      let status := { status with checkedAt := some time }
      if isShowable pool active then
        note .info
          ("Pool " ++ pool.name ++ ": " ++ toString active ++ "/" ++ toString pool.capacity
            ++ " active runners")
        return (status, .ok active)
      else
        return (status, .error .tooManyDigits)

/-- The line of the log about a failed pass. -/
def failureLine (pool : Pool) (failure : Failure) : Text :=
  "Pool " ++ pool.name ++ ": " ++ failure.title?.getD "unexpected error" ++ ": "
    ++ failure.message

/-- Report how a pass ended in the log and in the pool's status. -/
def report (pool : Pool) (status : PoolStatus) (ended : PassEnd) : Act PoolStatus :=
  match ended with
  | .finished decision => return { status with decision := some decision.summary }
  | .startFailed fault decision => do
    note .error ("Spawn error: " ++ fault.message)
    return { status with decision := some decision.summary, error := some fault.message }
  | .failed failure => do
    note .error (failureLine pool failure)
    return { status with error := some failure.message }

/-- Run a pass over a pool and enter its outcome in the pool's status.  Whatever
fails is reported there and goes no further.  The answer is the provisioner with
its ledger, the status, and the decision if the pass ran to its end. -/
def reconcile
    (provisioner : Provisioner)
    (pool : Pool)
    (status : PoolStatus) : Act (Provisioner × PoolStatus × Option Decision) := do
  let (observed, count) ← observe pool status.cleared
  match count with
  | .error failure => return (provisioner, ← report pool observed (.failed failure), none)
  | .ok active =>
    let (ended, ledger) ← provisioner.pass pool active
    let reported ← report pool observed ended
    return ({ provisioner with ledger }, reported, ended.decision?)

end Provisioner

end RunnerFleet
