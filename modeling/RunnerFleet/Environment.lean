import RunnerFleet.Failure

/-!
# The environment

The variables of the process.  The system knows the name and the content of a
variable as octets, so both are kept in their settled forms, and a variable is
found under every spelling of its name.

What the system refuses is refused here, for the same reasons and in the same
order.
-/

namespace RunnerFleet

/-- The variables of the environment, by the settled forms of their names. -/
abbrev Environment := List (Text × Text)

/-- Why a variable cannot be set. -/
inductive VariableFault where
  | noOctets (fault : Text.Utf8.EncodingFault)
  | nullCharacter
  | illegalName
  | emptyName
  deriving DecidableEq, Repr

/-- The report of a variable that cannot be set. -/
def VariableFault.message : VariableFault → String
  | .noOctets fault => fault.message
  | .nullCharacter => "embedded null byte"
  | .illegalName => "illegal environment variable name"
  | .emptyName => "[Errno 22] Invalid argument"

namespace Environment

/-- The settled form of a name or of a content. -/
def settled (text : Text) : Except VariableFault Text :=
  (Text.Utf8.settled text).mapError .noOctets

/-- The content of a variable whose name is given in its settled form. -/
def content? (environment : Environment) (name : Text) : Option Text :=
  environment.lookup name

/-- Set a variable. -/
def assign
    (environment : Environment)
    (name content : Text) : Except VariableFault Environment := do
  let settledName ← settled name
  let settledContent ← settled content
  if (name ++ content).contains (.scalar '\x00') then
    throw .nullCharacter
  else if name.contains (.scalar '=') then
    throw .illegalName
  else if name.isEmpty then
    throw .emptyName
  else
    pure (Table.put settledName settledContent environment)

/-- Remove a variable, if it is set. -/
def clear
    (environment : Environment)
    (name : Text) : Except VariableFault Environment := do
  let settledName ← settled name
  pure (Table.drop settledName environment)

/-- The environment in which the given variables are set. -/
def ofPairs (pairs : List (Text × Text)) : Except VariableFault Environment :=
  pairs.foldlM (fun environment (name, content) => environment.assign name content) []

end Environment

/-- Look up the variable that a value names.  Only a text names one, and only if
it has octets. -/
def Environment.variable
    (environment : Environment)
    (name : Value) : Except Failure (Option Text) :=
  match name with
  | .text content =>
    match Text.Utf8.settled content with
    | .error fault => .error (.noOctets fault)
    | .ok settledName => .ok (environment.content? settledName)
  | value => .error (.clash (.noVariableName value))

end RunnerFleet
