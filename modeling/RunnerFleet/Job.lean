import RunnerFleet.Failure

/-!
# Jobs and repositories

What the forge lists: jobs that wait for a runner, and a user's repositories.
An entry is read from a value.  Most of its fields may be of any kind; an entry
without the fields that identify it is refused.
-/

namespace RunnerFleet

/-- A job as the forge lists it. -/
structure Job where
  id : Value
  status : Value
  name : Value
  labels : List Value
  runId : Value
  runnerId : Value
  runnerName : Value

/-- Read a job. -/
def Job.ofValue (entry : Value) : Except Failure Job :=
  match entry with
  | .object fields =>
    match Fields.get fields "id" with
    | .null => .error (.malformed (.job entry))
    | id => do
      let text (name : Text) := (Fields.get fields name).orElse (.text "")
      let labels ← ((Fields.get fields "labels").orElse (.list [])).elements
      pure
        { id
          status := text "status"
          name := text "name"
          labels
          runId := Fields.get fields "run_id"
          runnerId := Fields.get fields "runner_id"
          runnerName := text "runner_name" }
  | _ => .error (.malformed (.job entry))

/-- A repository as the forge lists it. -/
structure Repository where
  owner : Value
  name : Value
  fullName : Value

namespace Repository

/-- Split a text at its first slash, if it has one. -/
def splitSlash? (content : Text) : Option (Text × Text) :=
  match content.dropWhile (· != .scalar '/') with
  | [] => none
  | _ :: after => some (content.takeWhile (· != .scalar '/'), after)

/-- Whether a value is the text of a slash. -/
def isSlash : Value → Bool
  | .text content => content == "/"
  | _ => false

/-- Owner and name from a full name, if it holds a slash.  Only a text can be
split, but a list or an object can hold a slash too. -/
def ofFullName (fullName : Value) : Except Failure (Option (Value × Value)) :=
  match fullName with
  | .text content =>
    .ok ((splitSlash? content).map fun (owner, name) => (.text owner, .text name))
  | .list items =>
    if items.any isSlash then .error (.noAttribute fullName "split") else .ok none
  | .object fields =>
    if fields.any (·.1 == "/") then .error (.noAttribute fullName "split") else .ok none
  | value => .error (.clash (.notContainer value))

/-- Read a repository.  Owner and name come from the fields of these names or,
where one is missing, from the full name. -/
def ofValue (entry : Value) : Except Failure Repository :=
  match entry with
  | .object fields => do
    let owner ←
      match (Fields.get fields "owner").orElse (.object []) with
      | .object owner => pure (Fields.getOr owner "login" (.text ""))
      | value => throw (.noAttribute value "get")
    let name := Fields.getOr fields "name" (.text "")
    let fullName := Fields.getOr fields "full_name" (.text "")
    let (owner, name) ←
      if owner.truthy && name.truthy then
        pure (owner, name)
      else
        (·.getD (owner, name)) <$> ofFullName fullName
    if owner.truthy && name.truthy then
      pure
        { owner
          name
          fullName := fullName.orElse (.text (owner.plain ++ "/" ++ name.plain)) }
    else
      throw (.malformed (.repositoryName entry))
  | _ => .error (.malformed (.repository entry))

end Repository

end RunnerFleet
