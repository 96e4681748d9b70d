import Mathlib.Data.Finset.Card
import RunnerFleet.Proofs.Configuring

/-!
# What an examination of pools reports

The conditions that a pool breaks are told here one by one, apart from the order in which they
are looked at.  An examination of pools that name their credentials reports each of them once,
pool after pool, and after those of a pool whether an earlier one has its name already.  So it
reports nothing exactly if there are pools, of different names and each in order.

A name of a variable that has no octets cannot be looked up.  The first pool with such a name
ends the examination, and what the pools before it break is lost as well.
-/

namespace RunnerFleet

/-- Whether a violation is that an earlier pool has the name already. -/
def Violation.isRepeat : Violation → Bool
  | .repeatedName _ => true
  | _ => false

namespace Pool

/-! ## One pool -/

/-- A condition that a pool breaks for itself, as a violation. -/
inductive Breaks (environment : Environment) (pool : Pool) : Violation → Prop where
  | noName (unnamed : pool.name = []) : Breaks environment pool .noName
  | unknownScope
      {value : Value}
      (unknown : pool.scope = .unknown value) :
      Breaks environment pool (.unknownScope pool.name value)
  | missingQualifier
      {scope : Scope}
      {qualifier : Qualifier}
      (known : pool.scope = .known scope)
      (required : qualifier ∈ scope.required)
      (missing : pool.qualifier qualifier = []) :
      Breaks environment pool (.missingQualifier pool.name qualifier scope)
  | forbiddenQualifier
      {scope : Scope}
      {qualifier : Qualifier}
      (known : pool.scope = .known scope)
      (forbidden : qualifier ∈ scope.forbidden)
      (given : pool.qualifier qualifier ≠ []) :
      Breaks environment pool (.forbiddenQualifier pool.name qualifier scope)
  | notWebAddress
      (other : isWebAddress pool.url = false) :
      Breaks environment pool (.notWebAddress pool.name pool.url)
  | noCapacity (none : pool.capacity < 1) : Breaks environment pool (.noCapacity pool.name)
  | noAuthToken
      (ungiven : ¬ ∃ token, pool.authToken environment = .ok (some token) ∧ token ≠ []) :
      Breaks environment pool (.noAuthToken pool.name pool.authVariable)
  | noRegistrationToken
      (ungiven :
        ¬ ∃ token, pool.registrationToken environment = .ok (some token) ∧ token ≠ []) :
      Breaks environment pool (.noRegistrationToken pool.name pool.registrationVariable)

variable {environment : Environment}

/-- A pool in order breaks no condition. -/
theorem InOrder.unbroken
    {pool : Pool}
    (ordered : pool.InOrder environment)
    (violation : Violation) :
    ¬ pool.Breaks environment violation := by
  rcases ordered.scope with ⟨scope, known, required, forbidden⟩
  intro broken
  cases broken with
  | noName unnamed => exact ordered.named unnamed
  | unknownScope unknown =>
    rw [known] at unknown
    cases unknown
  | missingQualifier same needs missing =>
    rw [known] at same
    cases same
    exact required _ needs missing
  | forbiddenQualifier same excludes given =>
    rw [known] at same
    cases same
    exact given (forbidden _ excludes)
  | notWebAddress other =>
    rw [ordered.address] at other
    cases other
  | noCapacity none => exact absurd ordered.capacity (by omega)
  | noAuthToken ungiven => exact ungiven ordered.auth
  | noRegistrationToken ungiven => exact ungiven ordered.registration

theorem mem_scopeViolations_iff {pool : Pool} {violation : Violation} :
    violation ∈ pool.scopeViolations ↔
      (∃ value, pool.scope = .unknown value ∧ violation = .unknownScope pool.name value) ∨
        ∃ scope,
          pool.scope = .known scope ∧
            ∃ qualifier,
              (qualifier ∈ scope.required ∧
                  pool.qualifier qualifier = [] ∧
                    violation = .missingQualifier pool.name qualifier scope) ∨
                (qualifier ∈ scope.forbidden ∧
                  pool.qualifier qualifier ≠ [] ∧
                    violation = .forbiddenQualifier pool.name qualifier scope) := by
  rw [scopeViolations]
  cases pool.scope with
  | unknown value => simp
  | known scope =>
    simp only [List.mem_append, List.mem_map, List.mem_filter, List.isEmpty_iff,
      Bool.not_eq_true', List.isEmpty_eq_false_iff, and_assoc, ScopeSetting.known.injEq,
      reduceCtorEq, false_and, exists_false, false_or, exists_or, exists_eq_left',
      eq_comm (a := violation)]

theorem nodup_scopeViolations (pool : Pool) : pool.scopeViolations.Nodup := by
  rw [scopeViolations]
  cases pool.scope with
  | unknown value => exact List.nodup_singleton _
  | known scope =>
    have distinct : scope.required.Nodup ∧ scope.forbidden.Nodup := by
      cases scope <;> decide
    refine List.nodup_append.mpr ⟨?_, ?_, ?_⟩
    · exact (distinct.1.filter _).map fun _ _ same => by injection same
    · exact (distinct.2.filter _).map fun _ _ same => by injection same
    · intro missing required given forbidden
      rcases List.mem_map.mp required with ⟨_, _, rfl⟩
      rcases List.mem_map.mp forbidden with ⟨_, _, rfl⟩
      intro same
      cases same

theorem isGiven_iff {token : Option Text} :
    isGiven token = true ↔ ∃ content, token = some content ∧ content ≠ [] := by
  cases token <;> simp [isGiven]

theorem mem_require_iff {holds : Bool} {violation other : Violation} :
    violation ∈ (if holds then [] else [other]) ↔ holds = false ∧ violation = other := by
  cases holds <;> simp

/-- One more condition that is looked at is reported at most once. -/
theorem nodup_append_require
    {found : List Violation}
    (distinct : found.Nodup)
    (holds : Bool)
    {violation : Violation}
    (fresh : violation ∉ found) :
    (found ++ if holds then [] else [violation]).Nodup := by
  cases holds with
  | true => simpa using distinct
  | false => simpa [List.nodup_append] using ⟨distinct, fun _ member same => fresh (same ▸ member)⟩

/-- The violations of a pool for itself are the conditions that it breaks, each once. -/
theorem violations_exact
    {pool : Pool}
    {own : List Violation}
    (found : pool.violations environment = .ok own) :
    own.Nodup ∧ ∀ violation, violation ∈ own ↔ pool.Breaks environment violation := by
  rcases bind_eq_ok_iff.mp found with ⟨auth, authFound, further⟩
  rcases bind_eq_ok_iff.mp further with ⟨registration, registrationFound, result⟩
  cases result
  clear found further
  have auth_ungiven : isGiven auth = false ↔
      ¬ ∃ token, pool.authToken environment = .ok (some token) ∧ token ≠ [] := by
    rw [authFound, ← Bool.not_eq_true, isGiven_iff]
    simp
  have registration_ungiven : isGiven registration = false ↔
      ¬ ∃ token, pool.registrationToken environment = .ok (some token) ∧ token ≠ [] := by
    rw [registrationFound, ← Bool.not_eq_true, isGiven_iff]
    simp
  dsimp only
  refine ⟨?once, fun violation => ⟨?sound, ?complete⟩⟩
  case once =>
    -- Every condition has its own kind of violation.
    have scope_last (holds : Bool) :
        ((if holds then [] else [Violation.noName]) ++ pool.scopeViolations).Nodup := by
      rw [List.nodup_append_comm]
      refine nodup_append_require pool.nodup_scopeViolations holds ?_
      simp [mem_scopeViolations_iff]
    refine nodup_append_require (nodup_append_require (nodup_append_require
      (nodup_append_require (scope_last _) _ ?_) _ ?_) _ ?_) _ ?_
    all_goals simp [mem_scopeViolations_iff]
  case sound =>
    simp only [List.mem_append, mem_require_iff, mem_scopeViolations_iff]
    rintro (((((⟨unnamed, rfl⟩ |
      ⟨value, unknown, rfl⟩ | ⟨scope, known, qualifier, ⟨required, missing, rfl⟩ |
        ⟨forbidden, given, rfl⟩⟩) | ⟨other, rfl⟩) | ⟨none, rfl⟩) | ⟨ungiven, rfl⟩) |
      ⟨ungiven, rfl⟩)
    · exact .noName (by simpa using unnamed)
    · exact .unknownScope unknown
    · exact .missingQualifier known required missing
    · exact .forbiddenQualifier known forbidden given
    · exact .notWebAddress other
    · exact .noCapacity (by simpa using none)
    · exact .noAuthToken (auth_ungiven.mp ungiven)
    · exact .noRegistrationToken (registration_ungiven.mp ungiven)
  case complete =>
    simp only [List.mem_append, mem_require_iff, mem_scopeViolations_iff]
    intro broken
    cases broken with
    | noName unnamed => simp [unnamed]
    | unknownScope unknown => simp [unknown]
    | missingQualifier known required missing => simp [known, required, missing]
    | forbiddenQualifier known forbidden given => simp [known, forbidden, given]
    | notWebAddress other => simp [other]
    | noCapacity none => simp [none]
    | noAuthToken ungiven => simp [auth_ungiven.mpr ungiven]
    | noRegistrationToken ungiven => simp [registration_ungiven.mpr ungiven]

/-! ## Pools one after another -/

/-- What is reported of pools that follow others: of each in turn the conditions that it breaks,
each once, and after these that its name is repeated, if a pool before it has the name. -/
inductive Accounts (environment : Environment) :
    List Pool → List Pool → List Violation → Prop where
  | nil {before : List Pool} : Accounts environment before [] []
  | cons
      {before rest : List Pool}
      {pool : Pool}
      {own others : List Violation}
      (once : own.Nodup)
      (told : ∀ violation, violation ∈ own ↔ pool.Breaks environment violation)
      (later : Accounts environment (before ++ [pool]) rest others) :
      Accounts environment before (pool :: rest)
        (own ++ (if pool.name ∈ before.map (·.name) then [.repeatedName pool.name] else []) ++
          others)

theorem violationsAfter_accounts
    {seen : List Text}
    {before pools : List Pool}
    (known : ∀ name, name ∈ seen ↔ name ∈ before.map (·.name))
    {found : List Violation}
    (examined : violationsAfter environment seen pools = .ok found) :
    Accounts environment before pools found := by
  induction pools generalizing seen before found with
  | nil =>
    cases examined
    exact .nil
  | cons pool rest ih =>
    rcases bind_eq_ok_iff.mp examined with ⟨own, ownFound, further⟩
    rcases bind_eq_ok_iff.mp further with ⟨others, othersFound, result⟩
    cases result
    rcases violations_exact ownFound with ⟨once, told⟩
    have known_after (name : Text) :
        name ∈ pool.name :: seen ↔ name ∈ (before ++ [pool]).map (·.name) := by
      simp [known, or_comm]
    have same :
        (if seen.contains pool.name then [Violation.repeatedName pool.name] else []) =
          if pool.name ∈ before.map (·.name) then [.repeatedName pool.name] else [] := by
      simp only [List.contains_iff_mem, known]
    rw [same]
    exact .cons once told (ih known_after othersFound)

/-- A condition that a pool breaks for itself is no repetition of a name. -/
theorem Breaks.isRepeat
    {pool : Pool}
    {violation : Violation}
    (broken : pool.Breaks environment violation) :
    violation.isRepeat = false := by
  cases broken <;> rfl

/-- Every pool has a new name or is reported as a repetition. -/
theorem Accounts.countP_isRepeat
    {before pools : List Pool}
    {found : List Violation}
    (accounts : Accounts environment before pools found) :
    found.countP Violation.isRepeat + ((before ++ pools).map (·.name)).toFinset.card =
      (before.map (·.name)).toFinset.card + pools.length := by
  induction accounts with
  | nil => simp
  | @cons before rest pool own others once told later ih =>
    have own_count : own.countP Violation.isRepeat = 0 := by
      rw [List.countP_eq_zero]
      intro violation member
      rw [((told violation).mp member).isRepeat]
      exact Bool.false_ne_true
    have names :
        ((before ++ [pool]).map (·.name)).toFinset =
          insert pool.name (before.map (·.name)).toFinset := by
      ext name
      simp
    rw [List.append_assoc, List.singleton_append, names] at ih
    rw [List.countP_append, List.countP_append, own_count, List.length_cons]
    by_cases repeated : pool.name ∈ before.map (·.name)
    · rw [Finset.insert_eq_of_mem (List.mem_toFinset.mpr repeated)] at ih
      have one : [Violation.repeatedName pool.name].countP Violation.isRepeat = 1 := rfl
      rw [if_pos repeated, one]
      omega
    · rw [Finset.card_insert_of_notMem fun known => repeated (List.mem_toFinset.mp known)] at ih
      rw [if_neg repeated, List.countP_nil]
      omega

/-- Nothing is reported of pools in order with new names. -/
theorem Accounts.eq_nil
    {before pools : List Pool}
    {found : List Violation}
    (accounts : Accounts environment before pools found)
    (distinct : ((before ++ pools).map (·.name)).Nodup)
    (ordered : ∀ pool ∈ pools, pool.InOrder environment) :
    found = [] := by
  induction accounts with
  | nil => rfl
  | @cons before rest pool own others once told later ih =>
    rcases List.forall_mem_cons.mp ordered with ⟨first, rest_ordered⟩
    have unbroken : own = [] := by
      rw [List.eq_nil_iff_forall_not_mem]
      intro violation member
      exact first.unbroken violation ((told violation).mp member)
    have fresh : pool.name ∉ before.map (·.name) := by
      rw [List.map_append, List.map_cons, List.nodup_append] at distinct
      intro known
      exact distinct.2.2 _ known _ List.mem_cons_self rfl
    rw [List.append_cons] at distinct
    rw [unbroken, if_neg fresh, ih distinct rest_ordered]
    rfl

theorem namesCredentials_of_violationsAfter
    {seen : List Text}
    {pools : List Pool}
    {found : List Violation}
    (examined : violationsAfter environment seen pools = .ok found) :
    ∀ pool ∈ pools, pool.NamesCredentials := by
  induction pools generalizing seen found with
  | nil => nofun
  | cons pool rest ih =>
    rcases bind_eq_ok_iff.mp examined with ⟨own, ownFound, further⟩
    rcases bind_eq_ok_iff.mp further with ⟨others, othersFound, _⟩
    exact List.forall_mem_cons.mpr
      ⟨(exists_violations_iff environment).mp ⟨own, ownFound⟩, ih othersFound⟩

variable (environment)

/-- An examination reports exactly what is wrong.

It comes to an end if every pool names its credentials, and then reports nothing exactly if
there are pools, of different names and each in order.  Without pools it reports just that, and
otherwise it accounts for every pool in turn; the repetitions that it reports and the different
names are together as many as the pools.  The first pool that does not name its credentials
ends the examination, and nothing is reported. -/
theorem allViolations_exact (pools : List Pool) :
    match allViolations environment pools with
    | .error failure =>
      ∃ before pool after,
        pools = before ++ pool :: after ∧
          (∀ earlier ∈ before, earlier.NamesCredentials) ∧
            ¬ pool.NamesCredentials ∧ pool.violations environment = .error failure
    | .ok found =>
      (∀ pool ∈ pools, pool.NamesCredentials) ∧
        (found = [] ↔
          pools ≠ [] ∧
            (pools.map (·.name)).Nodup ∧ ∀ pool ∈ pools, pool.InOrder environment) ∧
          (pools = [] → found = [.noPools]) ∧
            (pools ≠ [] →
              Accounts environment [] pools found ∧
                found.countP Violation.isRepeat + (pools.map (·.name)).toFinset.card =
                  pools.length) := by
  cases examined : allViolations environment pools with
  | error failure =>
    rcases allViolations_eq_error_iff.mp examined with ⟨before, pool, after, split, named, failed⟩
    refine ⟨before, pool, after, split, named, ?_, failed⟩
    intro names
    rcases (exists_violations_iff environment).mpr names with ⟨own, found⟩
    rw [failed] at found
    cases found
  | ok found =>
    dsimp only
    by_cases given : pools = []
    · subst given
      cases examined
      simp
    · have after : violationsAfter environment [] pools = .ok found := by
        rw [allViolations, if_neg (by simpa using given)] at examined
        exact examined
      have accounts : Accounts environment [] pools found :=
        violationsAfter_accounts (fun _ => Iff.rfl) after
      refine ⟨namesCredentials_of_violationsAfter after, ⟨?sound, ?complete⟩,
        fun none => absurd none given, fun _ => ⟨accounts, ?count⟩⟩
      case sound =>
        rintro rfl
        rcases of_allViolations examined with ⟨_, distinct, each⟩
        exact ⟨given, distinct, fun pool member => inOrder_of_violations (each pool member)⟩
      case complete =>
        rintro ⟨_, distinct, ordered⟩
        exact accounts.eq_nil distinct ordered
      case count => simpa using accounts.countP_isRepeat

/-- A pool whose credential is named without octets hides what is wrong with the one before
it. -/
example :
    let unnamed := { Pool.single "builders" with authVariable := .text [.surrogate 0] }
    (allViolations [] [Pool.single "", unnamed]).isOk = false := by
  decide +kernel

end Pool

end RunnerFleet
