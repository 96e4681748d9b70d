import RunnerFleet.Directory
import RunnerFleet.Json.Reader
import RunnerFleet.Pool
import RunnerFleet.Text.Newline

/-!
# Where pools come from

Pools are defined in a JSON file that holds a list of objects, or an object
with such a list; without a file, a single pool is defined by the variables of
the environment.  A definition must have the right shape, which is less than
being in order: what a well-shaped definition says is examined afterwards.
-/

namespace RunnerFleet

/-! ## One pool -/

/-- Why a value defines no pool. -/
inductive PoolFault where
  | notObject (value : Value)
  | labels (pool : Value)
  | environment (pool : Value)
  | capacity (pool : Value)
  | infiniteCapacity
  | notText (pool : Value) (field : String)

/-- The report of a value that defines no pool. -/
def PoolFault.message : PoolFault → Text
  | .notObject value => "pool entry must be an object, got " ++ value.literal
  | .labels pool =>
    "pool '" ++ pool.plain ++ "': labels must be a list of strings or a string"
  | .environment pool => "pool '" ++ pool.plain ++ "': env must be an object"
  | .capacity pool => "pool '" ++ pool.plain ++ "': max_active_runners must be an integer"
  | .infiniteCapacity => "cannot convert float infinity to integer"
  | .notText pool field => "pool '" ++ pool.plain ++ "': " ++ field ++ " must be a string"

/-- The texts of a list that holds nothing else. -/
def textsOf? : List Value → Option (List Text)
  | [] => some []
  | .text content :: rest => (textsOf? rest).map (content :: ·)
  | _ :: _ => none

namespace Pool

/-- The labels that a definition gives, as a list or as one text. -/
def labelsOf? (value : Value) : Option (List Text) :=
  match value.orElse (.list []) with
  | .text content => some (Label.parse content)
  | .list items => textsOf? items
  | _ => none

/-- The capacity that a definition gives: an integer, a truth value as zero or
one, a real cut off toward zero, or the text of an integer. -/
def capacityOf (pool value : Value) : Except PoolFault Int :=
  match value with
  | .bool flag => .ok (if flag then 1 else 0)
  | .int number => .ok number
  | .real number =>
    match Number.Exact.ofFloat number with
    | .infinite _ => .error .infiniteCapacity
    | _ =>
      match Number.truncate? number with
      | some capacity => .ok capacity
      | none => .error (.capacity pool)
  | .text content =>
    match Number.readInteger content with
    | .ok capacity => .ok capacity
    | .error _ => .error (.capacity pool)
  | _ => .error (.capacity pool)

/-- The variables that a definition adds to a runner's environment, as texts. -/
def extraEnvironmentOf? (value : Value) : Option (List (Text × Text)) :=
  match value.orElse (.object []) with
  | .object fields => some (fields.map fun (name, content) => (name, content.plain))
  | _ => none

/-- The text of a field. -/
def textOf (pool : Value) (field : String) (value : Value) : Except PoolFault Text :=
  match value with
  | .text content => .ok content
  | _ => .error (.notText pool field)

/-- Read a pool's definition. -/
def ofValue (data : Value) : Except PoolFault Pool :=
  match data with
  | .object fields => do
    let name := Fields.getOr fields "name" (.text "")
    let labels ←
      match labelsOf? (Fields.get fields "labels") with
      | some labels => pure labels
      | none => throw (.labels name)
    let extraEnvironment ←
      match extraEnvironmentOf? (Fields.get fields "env") with
      | some environment => pure environment
      | none => throw (.environment name)
    let capacity ← capacityOf name (Fields.getOr fields "max_active_runners" (.int 1))
    let nameText ← textOf name "name" name
    let url ← textOf name "gitea_url" (Fields.getOr fields "gitea_url" (.text ""))
    let qualifier (field : String) : Except PoolFault Text :=
      textOf name field ((Fields.get fields field).orElse (.text ""))
    let organisation ← qualifier "org"
    let user ← qualifier "user"
    let repository ← qualifier "repo"
    pure
      { name := nameText
        scope := .ofValue (Fields.getOr fields "scope" (.text ""))
        url
        capacity
        labels
        organisation
        user
        repository
        authVariable :=
          (Fields.get fields "auth_token_env").orElse (.text "GITEA_AUTH_TOKEN")
        registrationVariable :=
          (Fields.get fields "registration_token_env").orElse
            (.text "GITEA_RUNNER_REGISTRATION_TOKEN")
        extraEnvironment }
  | value => .error (.notObject value)

/-- The definition of a single pool by variables of the environment. -/
def definitionFrom (environment : Environment) : Value :=
  let field (name variableName default : Text) : Text × Value :=
    (name, .text ((environment.content? variableName).getD default))
  .object
    [field "name" "POOL_NAME" "runner",
      field "scope" "SCOPE" "",
      field "gitea_url" "GITEA_URL" "",
      field "max_active_runners" "MAX_ACTIVE_RUNNERS" "1",
      field "labels" "LABELS" "",
      field "org" "ORG" "",
      field "user" "GITEA_USER" "",
      field "repo" "REPO" "",
      field "auth_token_env" "AUTH_TOKEN_ENV" "",
      field "registration_token_env" "REGISTRATION_TOKEN_ENV" ""]

/-- The single pool that variables of the environment define. -/
def ofEnvironment (environment : Environment) : Except PoolFault Pool :=
  ofValue (definitionFrom environment)

end Pool

/-! ## All pools -/

/-- Why pools cannot be loaded. -/
inductive SourceFault where
  | file (fault : FileFault)
  | encoding (fault : Text.Utf8.Fault)
  | json (fault : Json.Fault)
  | notList (path : Text)
  | pool (fault : PoolFault)

namespace SourceFault

/-- The report of pools that cannot be loaded. -/
def message : SourceFault → Text
  | .file fault => fault.message
  | .encoding fault => fault.message
  | .json fault => fault.message
  | .notList path => path ++ ": expected a list of pools"
  | .pool fault => fault.message

/-- Whether a fault is reported as an error of the configuration; the others end
the service at once. -/
def isReported : SourceFault → Bool
  | .pool .infiniteCapacity | .json (.tooDeep _) => false
  | _ => true

end SourceFault

namespace Pool

/-- Read the definitions of a list of pools, up to the first bad one. -/
def ofValues : List Value → Except PoolFault (List Pool)
  | [] => .ok []
  | value :: rest => do
    let pool ← ofValue value
    let others ← ofValues rest
    pure (pool :: others)

/-- The pools that the content of a file defines, nested to at most the given number of
levels. -/
def ofContent
    (nesting : Nat)
    (path : Text)
    (octets : List UInt8) : Except SourceFault (List Pool) := do
  let chars ← (Text.Utf8.decode octets).mapError SourceFault.encoding
  let content : Text := (Text.unifyNewlines chars).map .scalar
  let data ← (Json.read nesting content).mapError SourceFault.json
  let listed :=
    match data with
    | .object fields => Fields.getOr fields "pools" (.list [])
    | value => value
  match listed with
  | .list items => (ofValues items).mapError SourceFault.pool
  | _ => throw (.notList path)

/-- The pools that the file at a path defines. -/
def ofFile
    (nesting : Nat)
    (directory : Directory)
    (path : Text) : Except SourceFault (List Pool) := do
  let octets ← (directory.readOctets path).mapError SourceFault.file
  ofContent nesting path octets

/-- The path of the file with the pools' definitions, if one is configured. -/
def filePath? (environment : Environment) : Option Text :=
  (environment.content? "RUNNER_POOLS_FILE").filter (!·.isEmpty)

/-- Load the configured pools. -/
def load
    (nesting : Nat)
    (environment : Environment)
    (directory : Directory) : Except SourceFault (List Pool) :=
  match filePath? environment with
  | some path => ofFile nesting directory path
  | none => (ofEnvironment environment).mapError SourceFault.pool |>.map ([·])

end Pool

end RunnerFleet
