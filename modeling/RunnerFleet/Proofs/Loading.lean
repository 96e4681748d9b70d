import RunnerFleet.Proofs.Admission
import RunnerFleet.Proofs.Work
import RunnerFleet.Service

/-!
# How loading the pools ends

The service loads its pools before it calls on anything outside.  It ends with pools that
have no violation, or it reports what is wrong and exits, or it ends without a report.  The
last is the case for three contents of the pools' file: JSON that is nested too deep, a
definition whose capacity is an infinite real, and a credential whose variable is not named
by a text with octets.
-/

namespace RunnerFleet

section

variable {Problem Source Item Answer : Type}

theorem bind_eq_error_iff
    {first : Except Problem Item}
    {second : Item → Except Problem Answer}
    {problem : Problem} :
    first >>= second = .error problem ↔
      first = .error problem ∨ ∃ item, first = .ok item ∧ second item = .error problem := by
  cases first with
  | error other => simp [bind, Except.bind]
  | ok item => simp [bind, Except.bind]

theorem mapError_eq_error_iff
    {Other : Type}
    {outcome : Except Problem Answer}
    {change : Problem → Other}
    {problem : Other} :
    outcome.mapError change = .error problem ↔
      ∃ cause, outcome = .error cause ∧ change cause = problem := by
  cases outcome with
  | error cause =>
    constructor
    · rintro ⟨⟩
      exact ⟨cause, rfl, rfl⟩
    · rintro ⟨_, ⟨⟩, rfl⟩
      rfl
  | ok answer =>
    constructor
    · rintro ⟨⟩
    · rintro ⟨_, ⟨⟩, _⟩

/-- Reading entries one after another fails as the first of them does that cannot be
read. -/
theorem mapM_eq_error_iff
    {read : Source → Except Problem Item}
    {entries : List Source}
    {problem : Problem} :
    entries.mapM read = .error problem ↔
      ∃ before entry after,
        entries = before ++ entry :: after ∧
          (∀ earlier ∈ before, ∃ item, read earlier = .ok item) ∧
            read entry = .error problem := by
  induction entries with
  | nil => simp [pure, Except.pure]
  | cons first rest ih =>
    rw [List.mapM_cons, bind_eq_error_iff]
    constructor
    · rintro (failed | ⟨item, readable, later⟩)
      · exact ⟨[], first, rest, rfl, nofun, failed⟩
      · rcases bind_eq_error_iff.mp later with failed | ⟨items, _, impossible⟩
        · rcases ih.mp failed with ⟨before, entry, after, rfl, earlier, unread⟩
          exact ⟨first :: before, entry, after, rfl,
            List.forall_mem_cons.mpr ⟨⟨item, readable⟩, earlier⟩, unread⟩
        · cases impossible
    · rintro ⟨before, entry, after, split, earlier, unread⟩
      cases before with
      | nil =>
        cases split
        exact .inl unread
      | cons other before =>
        cases split
        rcases List.forall_mem_cons.mp earlier with ⟨⟨item, readable⟩, later⟩
        have failed := ih.mpr ⟨before, entry, after, rfl, later, unread⟩
        exact .inr ⟨item, readable, bind_eq_error_iff.mpr (.inl failed)⟩

end

/-! ## Variables that are named -/

/-- Whether a value names a variable of an environment: it is a text that has octets. -/
def Value.NamesVariable : Value → Prop
  | .text content => Text.Utf8.encodingFault? content = none
  | _ => False

/-- Whether a pool names the variables of both of its credentials. -/
def Pool.NamesCredentials (pool : Pool) : Prop :=
  pool.authVariable.NamesVariable ∧ pool.registrationVariable.NamesVariable

theorem Environment.exists_variable_iff
    (environment : Environment)
    {name : Value} :
    (∃ token, environment.variable name = .ok token) ↔ name.NamesVariable := by
  cases name with
  | text content =>
    rw [Environment.variable, Value.NamesVariable, Text.Utf8.settled, Text.Utf8.nameOctets]
    cases Text.Utf8.encodingFault? content with
    | none => simp [Except.map]
    | some fault => simp [Except.map]
  | _ => simp [Environment.variable, Value.NamesVariable]

namespace Pool

variable (environment : Environment)

/-- What is wrong with a pool can be told if the pool names its credentials. -/
theorem exists_violations_iff {pool : Pool} :
    (∃ violations, pool.violations environment = .ok violations) ↔ pool.NamesCredentials := by
  rw [NamesCredentials, ← environment.exists_variable_iff, ← environment.exists_variable_iff]
  simp only [violations, bind_eq_ok_iff, authToken, registrationToken]
  constructor
  · rintro ⟨_, auth, authFound, registration, registrationFound, _⟩
    exact ⟨⟨auth, authFound⟩, ⟨registration, registrationFound⟩⟩
  · rintro ⟨⟨auth, authFound⟩, ⟨registration, registrationFound⟩⟩
    exact ⟨_, auth, authFound, registration, registrationFound, rfl⟩

variable {environment}

theorem violationsAfter_eq_error_iff
    (seen : List Text)
    {pools : List Pool}
    {failure : Failure} :
    violationsAfter environment seen pools = .error failure ↔
      pools.mapM (·.violations environment) = .error failure := by
  induction pools generalizing seen with
  | nil => simp [violationsAfter, pure, Except.pure]
  | cons pool rest ih =>
    rw [violationsAfter, List.mapM_cons]
    simp only [bind_eq_error_iff, ih, pure, Except.pure, reduceCtorEq, and_false, exists_false,
      or_false]

/-- Pools are examined up to the first one that does not name its credentials. -/
theorem allViolations_eq_error_iff
    {pools : List Pool}
    {failure : Failure} :
    allViolations environment pools = .error failure ↔
      ∃ before pool after,
        pools = before ++ pool :: after ∧
          (∀ earlier ∈ before, earlier.NamesCredentials) ∧
            pool.violations environment = .error failure := by
  simp only [← exists_violations_iff environment, ← mapM_eq_error_iff,
    ← violationsAfter_eq_error_iff []]
  cases pools with
  | nil => simp [allViolations, violationsAfter]
  | cons pool rest => rfl

end Pool

/-! ## Definitions that are read -/

/-- Whether a definition that can be read up to its capacity gives an infinite real as the
capacity. -/
def Value.IsBoundless (definition : Value) : Prop :=
  ∃ fields labels extras number negative,
    definition = .object fields ∧
      Pool.labelsOf? (Fields.get fields "labels") = some labels ∧
        Pool.extraEnvironmentOf? (Fields.get fields "env") = some extras ∧
          Fields.getOr fields "max_active_runners" (.int 1) = .real number ∧
            Number.Exact.ofFloat number = .infinite negative

namespace Pool

theorem capacityOf_eq_infinite_iff {name value : Value} :
    capacityOf name value = .error .infiniteCapacity ↔
      ∃ number negative,
        value = .real number ∧ Number.Exact.ofFloat number = .infinite negative := by
  cases value with
  | real number =>
    rw [capacityOf]
    cases exact : Number.Exact.ofFloat number with
    | infinite negative => simp [exact]
    | finite negative significand exponent => simp [exact, Number.truncate?]
    | notANumber => simp [exact, Number.truncate?]
  | text content =>
    rw [capacityOf]
    cases Number.readInteger content with
    | ok capacity => simp
    | error fault => simp
  | _ => simp [capacityOf]

theorem textOf_ne_infinite {name : Value} {field : String} {value : Value} :
    textOf name field value ≠ .error .infiniteCapacity := by
  cases value with
  | text content => simp [textOf]
  | _ => simp [textOf]

/-- Reading a definition meets an infinite capacity only in a boundless one. -/
theorem ofValue_eq_infinite_iff {definition : Value} :
    ofValue definition = .error .infiniteCapacity ↔ definition.IsBoundless := by
  cases definition with
  | object fields =>
    simp only [ofValue, Value.IsBoundless]
    cases labels : labelsOf? (Fields.get fields "labels") with
    | none => simp [labels, bind_eq_error_iff, throw, throwThe, MonadExceptOf.throw]
    | some given =>
      cases extras : extraEnvironmentOf? (Fields.get fields "env") with
      | none =>
        simp [labels, extras, bind_eq_error_iff, throw, throwThe, MonadExceptOf.throw, pure,
          Except.pure]
      | some environment =>
        simp [labels, extras, bind_eq_error_iff, capacityOf_eq_infinite_iff,
          textOf_ne_infinite, pure, Except.pure]
  | _ => simp [ofValue, Value.IsBoundless]

theorem ofValues_eq_mapM (values : List Value) : ofValues values = values.mapM ofValue := by
  induction values with
  | nil => rfl
  | cons value rest ih => rw [ofValues, List.mapM_cons, ih]

/-- The text of a file. -/
def textAt (directory : Directory) (path : Text) : Except SourceFault Text := do
  let octets ← (directory.readOctets path).mapError .file
  let chars ← (Text.Utf8.decode octets).mapError .encoding
  pure ((Text.unifyNewlines chars).map .scalar)

/-- The definitions that the content of a file holds. -/
def definitionsIn (path : Text) (data : Value) : Except SourceFault (List Value) :=
  let listed :=
    match data with
    | .object fields => Fields.getOr fields "pools" (.list [])
    | value => value
  match listed with
  | .list items => .ok items
  | _ => .error (.notList path)

/-- The definitions that are configured, nested to at most the given number of levels. -/
def definitions
    (nesting : Nat)
    (environment : Environment)
    (directory : Directory) : Except SourceFault (List Value) :=
  match filePath? environment with
  | some path => do
    let content ← textAt directory path
    let data ← (Json.read nesting content).mapError .json
    definitionsIn path data
  | none => .ok [definitionFrom environment]

variable (nesting : Nat) (environment : Environment) (directory : Directory)

/-- Pools are loaded by reading the definitions that are configured. -/
theorem load_eq :
    load nesting environment directory =
      definitions nesting environment directory >>= fun values =>
        (ofValues values).mapError .pool := by
  rw [load, definitions]
  cases filePath? environment with
  | none =>
    rw [ofEnvironment]
    change _ = (ofValues [definitionFrom environment]).mapError SourceFault.pool
    rw [ofValues, ofValues]
    cases ofValue (definitionFrom environment) with
    | error fault => rfl
    | ok pool => rfl
  | some path =>
    simp only [ofFile, ofContent, textAt, bind_assoc, pure_bind]
    refine bind_congr fun octets => bind_congr fun chars => bind_congr fun data => ?_
    cases data with
    | object fields =>
      dsimp only [definitionsIn]
      cases Fields.getOr fields "pools" (.list []) with
      | _ => rfl
    | _ => rfl

end Pool

/-! ## Endings without a report -/

/-- How the service ends without a report while it loads its pools. -/
inductive Service.Crashes
    (nesting : Nat)
    (environment : Environment)
    (directory : Directory) : Ending → Prop
  /-- The definitions are JSON that is nested too deep. -/
  | nested
      {path content : Text}
      {nest : Json.Nest}
      (configured : Pool.filePath? environment = some path)
      (given : Pool.textAt directory path = .ok content)
      (deep : Json.read nesting content = .error (.tooDeep nest)) :
      Crashes nesting environment directory (.unloadable (.json (.tooDeep nest)))
  /-- The first definition that cannot be read gives an infinite capacity. -/
  | boundless
      {before after : List Value}
      {definition : Value}
      (given : Pool.definitions nesting environment directory = .ok (before ++ definition :: after))
      (earlier : ∀ other ∈ before, ∃ pool, Pool.ofValue other = .ok pool)
      (infinite : definition.IsBoundless) :
      Crashes nesting environment directory (.unloadable (.pool .infiniteCapacity))
  /-- A pool does not name its credentials, and is the first to do so. -/
  | unnamed
      {before after : List Pool}
      {pool : Pool}
      {failure : Failure}
      (loaded : Pool.load nesting environment directory = .ok (before ++ pool :: after))
      (earlier : ∀ other ∈ before, other.NamesCredentials)
      (fails : pool.violations environment = .error failure) :
      Crashes nesting environment directory (.failed failure)

namespace Pool

variable {nesting : Nat} {environment : Environment} {directory : Directory}

theorem textAt_isReported
    {path : Text}
    {fault : SourceFault}
    (failed : textAt directory path = .error fault) :
    fault.isReported = true := by
  rcases bind_eq_error_iff.mp failed with unread | ⟨octets, _, further⟩
  · rcases mapError_eq_error_iff.mp unread with ⟨cause, _, rfl⟩
    rfl
  · rcases bind_eq_error_iff.mp further with undecoded | ⟨chars, _, impossible⟩
    · rcases mapError_eq_error_iff.mp undecoded with ⟨cause, _, rfl⟩
      rfl
    · cases impossible

theorem definitionsIn_isReported
    {path : Text}
    {data : Value}
    {fault : SourceFault}
    (failed : definitionsIn path data = .error fault) :
    fault.isReported = true := by
  simp only [definitionsIn] at failed
  split at failed
  · cases failed
  · cases failed
    rfl

/-- Definitions that cannot be told without a report are nested too deep. -/
theorem crashes_of_definitions
    {fault : SourceFault}
    (failed : definitions nesting environment directory = .error fault)
    (silent : fault.isReported = false) :
    Service.Crashes nesting environment directory (.unloadable fault) := by
  rw [definitions] at failed
  split at failed
  next path configured =>
    rcases bind_eq_error_iff.mp failed with missing | ⟨content, given, further⟩
    · rw [textAt_isReported missing] at silent
      cases silent
    · rcases bind_eq_error_iff.mp further with unread | ⟨data, _, unlisted⟩
      · rcases mapError_eq_error_iff.mp unread with ⟨cause, deep, rfl⟩
        cases cause with
        | tooDeep nest => exact .nested configured given deep
        | _ => cases silent
      · rw [definitionsIn_isReported unlisted] at silent
        cases silent
  · cases failed

/-- The faults of pools that cannot be loaded and are not reported. -/
theorem load_eq_unreported_iff {fault : SourceFault} :
    (load nesting environment directory = .error fault ∧ fault.isReported = false) ↔
      Service.Crashes nesting environment directory (.unloadable fault) := by
  rw [load_eq, bind_eq_error_iff]
  constructor
  · rintro ⟨undefined | ⟨values, defined, unread⟩, silent⟩
    · exact crashes_of_definitions undefined silent
    · rcases mapError_eq_error_iff.mp unread with ⟨cause, failed, rfl⟩
      have infinite : cause = .infiniteCapacity := by
        cases cause with
        | infiniteCapacity => rfl
        | _ => cases silent
      subst infinite
      rw [ofValues_eq_mapM, mapM_eq_error_iff] at failed
      rcases failed with ⟨before, definition, after, rfl, earlier, fails⟩
      exact .boundless defined earlier (ofValue_eq_infinite_iff.mp fails)
  · intro crashes
    cases crashes with
    | nested configured given deep =>
      refine ⟨.inl ?_, rfl⟩
      rw [definitions, configured]
      refine bind_eq_error_iff.mpr (.inr ⟨_, given, bind_eq_error_iff.mpr (.inl ?_)⟩)
      exact mapError_eq_error_iff.mpr ⟨_, deep, rfl⟩
    | boundless given earlier infinite =>
      refine ⟨.inr ⟨_, given, ?_⟩, rfl⟩
      rw [ofValues_eq_mapM, mapError_eq_error_iff]
      refine ⟨_, mapM_eq_error_iff.mpr ?_, rfl⟩
      exact ⟨_, _, _, rfl, earlier, ofValue_eq_infinite_iff.mpr infinite⟩

/-- The faults of pools that are loaded and cannot be examined. -/
theorem allViolations_eq_failed_iff {failure : Failure} :
    (∃ pools,
        load nesting environment directory = .ok pools ∧
          allViolations environment pools = .error failure) ↔
      Service.Crashes nesting environment directory (.failed failure) := by
  constructor
  · rintro ⟨pools, loaded, failed⟩
    rcases allViolations_eq_error_iff.mp failed with
      ⟨before, pool, after, rfl, earlier, fails⟩
    exact .unnamed loaded earlier fails
  · intro crashes
    cases crashes with
    | unnamed loaded earlier fails =>
      exact ⟨_, loaded, allViolations_eq_error_iff.mpr ⟨_, _, _, rfl, earlier, fails⟩⟩

end Pool

/-! ## Loading and examining -/

namespace Service

/-- A world with further lines in its log. -/
def noted (world : World) (lines : List LogLine) : World :=
  { world with log := world.log ++ lines }

theorem note_run (level : Level) (message : Text) (world : World) :
    (note level message).run world = ((), noted world [⟨level, message⟩]) :=
  rfl

theorem forM_note_run
    {Item : Type}
    (level : Level)
    (message : Item → Text)
    (items : List Item)
    (world : World) :
    (items.forM fun item => note level (message item)).run world =
      ((), noted world (items.map fun item => ⟨level, message item⟩)) := by
  induction items generalizing world with
  | nil =>
    rw [List.map_nil, noted, List.append_nil]
    rfl
  | cons item rest ih =>
    change (rest.forM fun item => note level (message item)).run
      (noted world [⟨level, message item⟩]) = _
    rw [ih, noted, noted, noted, List.map_cons, List.append_assoc, List.singleton_append]

theorem loadPools_run (environment : Environment) (world : World) :
    ∃ lines,
      (loadPools environment).run world =
        (Pool.load world.outside.limits.fileNesting environment world.directory,
          { world with log := world.log ++ lines }) := by
  have limited : limits.run world = (world.outside.limits, world) := rfl
  have begins : (get : Act World).run world = (world, world) := rfl
  rw [loadPools, Act.run_bind, limited, Act.run_bind, begins]
  dsimp only
  cases Pool.load world.outside.limits.fileNesting environment world.directory with
  | error fault =>
    refine ⟨[], ?_⟩
    rw [List.append_nil]
    rfl
  | ok pools =>
    cases Pool.filePath? environment with
    | none =>
      refine ⟨[], ?_⟩
      rw [List.append_nil]
      rfl
    | some path => exact ⟨_, rfl⟩

section

variable {nesting : Nat} {environment : Environment} {directory : Directory} {ending : Ending}

theorem crashes_iff_of_fault
    {fault : SourceFault}
    (failed : Pool.load nesting environment directory = .error fault) :
    Crashes nesting environment directory ending ↔
      ending = .unloadable fault ∧ fault.isReported = false := by
  constructor
  · intro crashes
    cases ending with
    | unloadable other =>
      rcases Pool.load_eq_unreported_iff.mpr crashes with ⟨also, silent⟩
      rw [failed] at also
      cases also
      exact ⟨rfl, silent⟩
    | failed failure =>
      rcases Pool.allViolations_eq_failed_iff.mpr crashes with ⟨pools, loaded, _⟩
      rw [failed] at loaded
      cases loaded
    | completed => cases crashes
    | exited code => cases crashes
  · rintro ⟨rfl, silent⟩
    exact Pool.load_eq_unreported_iff.mp ⟨failed, silent⟩

theorem crashes_iff_of_pools
    {pools : List Pool}
    (loaded : Pool.load nesting environment directory = .ok pools) :
    Crashes nesting environment directory ending ↔
      ∃ failure,
        ending = .failed failure ∧ Pool.allViolations environment pools = .error failure := by
  constructor
  · intro crashes
    cases ending with
    | unloadable fault =>
      rcases Pool.load_eq_unreported_iff.mpr crashes with ⟨failed, _⟩
      rw [loaded] at failed
      cases failed
    | failed failure =>
      rcases Pool.allViolations_eq_failed_iff.mpr crashes with ⟨others, also, fails⟩
      rw [loaded] at also
      cases also
      exact ⟨failure, rfl, fails⟩
    | completed => cases crashes
    | exited code => cases crashes
  · rintro ⟨failure, rfl, fails⟩
    exact Pool.allViolations_eq_failed_iff.mp ⟨pools, loaded, fails⟩

end

variable (world : World)

/-- Definitions that cannot be read are reported, or they end the service at once. -/
theorem preparePools_of_fault
    {fault : SourceFault}
    (failed :
      Pool.load world.outside.limits.fileNesting world.environment world.directory =
        .error fault) :
    ∃ lines,
      preparePools.run world =
        if fault.isReported then
          (.error (.exited 1), noted world (lines ++
            [⟨.error, "Config error: " ++ ("failed to load runner pools: " ++ fault.message)⟩]))
        else
          (.error (.unloadable fault), noted world lines) := by
  have begins : (get : Act World).run world = (world, world) := rfl
  rcases loadPools_run world.environment world with ⟨lines, loads⟩
  refine ⟨lines, ?_⟩
  simp only [preparePools, Act.run_bind, begins, loads, failed]
  split
  · rw [noted, ← List.append_assoc]
    rfl
  · rfl

/-- Pools that are read are the outcome if they have no violations; those that they have are
reported. -/
theorem preparePools_of_pools
    {pools : List Pool}
    (loaded :
      Pool.load world.outside.limits.fileNesting world.environment world.directory =
        .ok pools) :
    ∃ lines,
      preparePools.run world =
        match Pool.allViolations world.environment pools with
        | .error failure => (.error (.failed failure), noted world lines)
        | .ok [] => (.ok pools, noted world lines)
        | .ok violations =>
          (.error (.exited 1), noted world (lines ++ violations.map fun violation =>
            ⟨.error, "Config error: " ++ violation.message⟩)) := by
  have begins : (get : Act World).run world = (world, world) := rfl
  rcases loadPools_run world.environment world with ⟨lines, loads⟩
  refine ⟨lines, ?_⟩
  simp only [preparePools, Act.run_bind, begins, loads, loaded]
  cases Pool.allViolations world.environment pools with
  | error failure => rfl
  | ok violations =>
    cases violations with
    | nil => rfl
    | cons first rest =>
      dsimp only
      rw [if_neg (by simp), Act.run_bind, reportAll, forM_note_run, List.map_map, noted, noted,
        List.append_assoc]
      rfl

/-- Loading only adds to the log.  It ends with pools that have no violation, or with an
error of the configuration in the log and the code one, or without a report, and the last in
exactly the ways that are listed. -/
theorem preparePools_reports :
    ∃ lines,
      (preparePools.run world).2 = { world with log := world.log ++ lines } ∧
        ((∃ pools,
            (preparePools.run world).1 = .ok pools ∧
              Pool.load world.outside.limits.fileNesting world.environment world.directory =
                  .ok pools ∧
                Pool.allViolations world.environment pools = .ok []) ∨
          ((preparePools.run world).1 = .error (.exited 1) ∧
            ∃ message, ⟨.error, "Config error: " ++ message⟩ ∈ lines) ∨
            ∃ ending,
              (preparePools.run world).1 = .error ending ∧
                Crashes world.outside.limits.fileNesting world.environment world.directory
                  ending) ∧
          ∀ ending,
            Crashes world.outside.limits.fileNesting world.environment world.directory ending →
              (preparePools.run world).1 = .error ending := by
  cases outcome : Pool.load world.outside.limits.fileNesting world.environment world.directory with
  | error fault =>
    simp only [crashes_iff_of_fault outcome]
    rcases preparePools_of_fault world outcome with ⟨lines, run⟩
    rw [run]
    split
    next reported =>
      refine ⟨_, rfl, .inr (.inl ⟨rfl, _, List.mem_append_right _ List.mem_cons_self⟩), ?_⟩
      rintro ending ⟨_, silent⟩
      rw [reported] at silent
      cases silent
    next silent =>
      have silent : fault.isReported = false := by simpa using silent
      refine ⟨_, rfl, .inr (.inr ⟨_, rfl, rfl, silent⟩), ?_⟩
      rintro ending ⟨rfl, _⟩
      rfl
  | ok pools =>
    simp only [crashes_iff_of_pools outcome]
    rcases preparePools_of_pools world outcome with ⟨lines, run⟩
    rw [run]
    cases examined : Pool.allViolations world.environment pools with
    | error failure =>
      refine ⟨_, rfl, .inr (.inr ⟨_, rfl, failure, rfl, rfl⟩), ?_⟩
      rintro ending ⟨other, rfl, same⟩
      cases same
      rfl
    | ok violations =>
      cases violations with
      | nil =>
        refine ⟨_, rfl, .inl ⟨pools, rfl, rfl, examined⟩, ?_⟩
        rintro ending ⟨failure, rfl, fails⟩
        cases fails
      | cons first rest =>
        refine ⟨_, rfl, .inr (.inl ⟨rfl, first.message, ?_⟩), ?_⟩
        · exact List.mem_append_right _ List.mem_cons_self
        · rintro ending ⟨failure, rfl, fails⟩
          cases fails

example :
    Pool.allViolations []
        [{ name := "p", scope := .known .global, url := "", capacity := 1,
           authVariable := .int 5 }] =
      .error (.clash (.noVariableName (.int 5))) :=
  rfl

end Service

end RunnerFleet
