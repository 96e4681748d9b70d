import RunnerFleet.Environment

/-!
# Runner pools

A pool is a group of runners that serve one scope of a forge, offer the same
labels, and are limited in number.  The scope says whose jobs count: those of
the whole forge, of an organisation, of a user, or of one repository, whose
owner is then the pool's organisation.

The two credentials of a pool are named, not held: they are variables of the
environment.
-/

namespace RunnerFleet

/-- Whose jobs a pool serves. -/
inductive Scope where
  | global
  | organisation
  | user
  | repository
  deriving DecidableEq, Repr

/-- The word for a scope. -/
def Scope.word : Scope → String
  | .global => "global"
  | .organisation => "org"
  | .user => "user"
  | .repository => "repo"

/-- All scopes. -/
def Scope.all : List Scope :=
  [.global, .organisation, .user, .repository]

/-- A scope as a pool's definition gives it: one of the four, or a value that is
none of them. -/
inductive ScopeSetting where
  | known (scope : Scope)
  | unknown (value : Value)

/-- The scope that a value names. -/
def ScopeSetting.ofValue (value : Value) : ScopeSetting :=
  match value with
  | .text content =>
    match Scope.all.find? (Text.ofString ·.word == content) with
    | some scope => .known scope
    | none => .unknown value
  | _ => .unknown value

/-- A group of runners with a common scope, labels and limit. -/
structure Pool where
  name : Text
  scope : ScopeSetting
  url : Text
  capacity : Int
  labels : List Text := []
  organisation : Text := ""
  user : Text := ""
  repository : Text := ""
  authVariable : Value := .text "GITEA_AUTH_TOKEN"
  registrationVariable : Value := .text "GITEA_RUNNER_REGISTRATION_TOKEN"
  extraEnvironment : List (Text × Text) := []

namespace Pool

/-- The scope of a pool in words. -/
def scopeText (pool : Pool) : Text :=
  match pool.scope with
  | .known .repository => "repo " ++ pool.organisation ++ "/" ++ pool.repository
  | .known .organisation => "org " ++ pool.organisation
  | .known .user => "user " ++ pool.user
  | _ => "global"

/-- The credential with which the pool asks the forge. -/
def authToken
    (pool : Pool)
    (environment : Environment) : Except Failure (Option Text) :=
  environment.variable pool.authVariable

/-- The credential with which the pool's runners register. -/
def registrationToken
    (pool : Pool)
    (environment : Environment) : Except Failure (Option Text) :=
  environment.variable pool.registrationVariable

end Pool

end RunnerFleet
