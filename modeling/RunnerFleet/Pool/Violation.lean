import RunnerFleet.Pool

/-!
# What is wrong with pools

A pool is in order if it has a name, a known scope with exactly the qualifiers
that the scope needs, the URL of a forge, room for a runner, and both
credentials.  Every condition that does not hold is a violation, and so is a
name that an earlier pool has already.
-/

namespace RunnerFleet

/-- What a scope may be narrowed by. -/
inductive Qualifier where
  | organisation
  | user
  | repository
  deriving DecidableEq, Repr

/-- The word for a qualifier. -/
def Qualifier.word : Qualifier → String
  | .organisation => "org"
  | .user => "user"
  | .repository => "repo"

/-- The qualifiers that a scope needs. -/
def Scope.required : Scope → List Qualifier
  | .global => []
  | .organisation => [.organisation]
  | .user => [.user]
  | .repository => [.organisation, .repository]

/-- The qualifiers that a scope excludes. -/
def Scope.forbidden : Scope → List Qualifier
  | .global => [.organisation, .user, .repository]
  | .organisation => [.user, .repository]
  | .user => [.organisation, .repository]
  | .repository => [.user]

/-- What a pool's definition gives for a qualifier. -/
def Pool.qualifier (pool : Pool) : Qualifier → Text
  | .organisation => pool.organisation
  | .user => pool.user
  | .repository => pool.repository

/-- A condition that does not hold. -/
inductive Violation where
  | noPools
  | noName
  | unknownScope (pool : Text) (scope : Value)
  | missingQualifier (pool : Text) (qualifier : Qualifier) (scope : Scope)
  | forbiddenQualifier (pool : Text) (qualifier : Qualifier) (scope : Scope)
  | notWebAddress (pool url : Text)
  | noCapacity (pool : Text)
  | noAuthToken (pool : Text) (variableName : Value)
  | noRegistrationToken (pool : Text) (variableName : Value)
  | repeatedName (pool : Text)

/-- The report of a violation. -/
def Violation.message : Violation → Text
  | .noPools => "no runner pools configured"
  | .noName => "pool name must not be empty"
  | .unknownScope pool scope => "pool '" ++ pool ++ "': unknown scope '" ++ scope.plain ++ "'"
  | .missingQualifier pool qualifier scope =>
    "pool '" ++ pool ++ "': '" ++ qualifier.word ++ "' is required for " ++ scope.word
      ++ " scope"
  | .forbiddenQualifier pool qualifier scope =>
    "pool '" ++ pool ++ "': '" ++ qualifier.word ++ "' is not allowed for " ++ scope.word
      ++ " scope"
  | .notWebAddress pool url =>
    "pool '" ++ pool ++ "': gitea_url must be an http(s) URL, got '" ++ url ++ "'"
  | .noCapacity pool => "pool '" ++ pool ++ "': max_active_runners must be >= 1"
  | .noAuthToken pool variableName =>
    "pool '" ++ pool ++ "': auth token env var " ++ variableName.plain ++ " is not set"
  | .noRegistrationToken pool variableName =>
    "pool '" ++ pool ++ "': registration token env var " ++ variableName.plain ++ " is not set"
  | .repeatedName pool => "duplicate pool name '" ++ pool ++ "'"

/-- Whether a text is the address of a web server. -/
def isWebAddress (url : Text) : Bool :=
  (Text.ofString "http://").isPrefixOf url || (Text.ofString "https://").isPrefixOf url

/-- Whether a credential is there: set, and not empty. -/
def isGiven (token : Option Text) : Bool :=
  match token with
  | none => false
  | some content => !content.isEmpty

namespace Pool

/-- The violations of a pool's scope. -/
def scopeViolations (pool : Pool) : List Violation :=
  match pool.scope with
  | .unknown value => [.unknownScope pool.name value]
  | .known scope =>
    (scope.required.filter fun qualifier => (pool.qualifier qualifier).isEmpty).map
        (.missingQualifier pool.name · scope)
      ++ (scope.forbidden.filter fun qualifier => !(pool.qualifier qualifier).isEmpty).map
        (.forbiddenQualifier pool.name · scope)

/-- The violations of a pool for itself.  A credential whose variable is not
named by a text cannot be looked up at all. -/
def violations
    (pool : Pool)
    (environment : Environment) : Except Failure (List Violation) := do
  let auth ← pool.authToken environment
  let registration ← pool.registrationToken environment
  let require (holds : Bool) (violation : Violation) : List Violation :=
    if holds then [] else [violation]
  pure <|
    require (!pool.name.isEmpty) .noName
      ++ pool.scopeViolations
      ++ require (isWebAddress pool.url) (.notWebAddress pool.name pool.url)
      ++ require (1 ≤ pool.capacity) (.noCapacity pool.name)
      ++ require (isGiven auth) (.noAuthToken pool.name pool.authVariable)
      ++ require (isGiven registration)
        (.noRegistrationToken pool.name pool.registrationVariable)

/-- The violations of the pools that follow pools with the given names. -/
def violationsAfter
    (environment : Environment) : List Text → List Pool → Except Failure (List Violation)
  | _, [] => .ok []
  | seen, pool :: rest => do
    let own ← pool.violations environment
    let repeated := if seen.contains pool.name then [.repeatedName pool.name] else []
    let others ← violationsAfter environment (pool.name :: seen) rest
    pure (own ++ repeated ++ others)

/-- The violations of a list of pools, in the order of the pools. -/
def allViolations
    (environment : Environment)
    (pools : List Pool) : Except Failure (List Violation) :=
  if pools.isEmpty then .ok [.noPools] else violationsAfter environment [] pools

end Pool

end RunnerFleet
