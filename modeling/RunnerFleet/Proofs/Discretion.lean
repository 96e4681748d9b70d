import Mathlib.Data.List.Forall2
import RunnerFleet.Proofs.Credentials

/-!
# Requests do not depend on credentials for registration

Two runs of the service may differ in the credentials with which runners register.  Their
worlds correspond if they are the same in all else: the calls so far are the same up to these
credentials, and the outside makes the same of histories that are.

Corresponding acts end with the same answer and leave corresponding worlds.  The rules for
putting acts together pass this on from the parts, and it is only in the start of a runner
that the parts are not the same on both sides.
-/

namespace RunnerFleet

variable {Answer Result : Type} {pools : List Pool} {first second : Environment}

/-! ## Environments -/

/-- A value names a variable of the environment. -/
def Value.Names (value : Value) (name : Text) : Prop :=
  ∃ content, value = .text content ∧ Text.Utf8.settled content = .ok name

/-- Two environments that differ at most in the contents of variables that are set to
something in both, and with which no pool asks its forge. -/
def Environment.Corresponds (pools : List Pool) (first second : Environment) : Prop :=
  ∀ name,
    second.content? name = first.content? name ∨
      (∀ pool ∈ pools, ¬ pool.authVariable.Names name) ∧
        ∃ content other,
          first.content? name = some content ∧ content ≠ [] ∧
            second.content? name = some other ∧ other ≠ []

namespace Environment.Corresponds

variable (corresponds : Environment.Corresponds pools first second)

include corresponds

/-- What a value names is the same in both environments, or set to something in both. -/
theorem variable_cases (value : Value) :
    second.variable value = first.variable value ∨
      ∃ content other,
        first.variable value = .ok (some content) ∧ content ≠ [] ∧
          second.variable value = .ok (some other) ∧ other ≠ [] := by
  cases value with
  | text content =>
    simp only [Environment.variable]
    cases settled : Text.Utf8.settled content with
    | error fault => exact .inl rfl
    | ok name =>
      rcases corresponds name with same | ⟨_, one, other, found, given, alsoFound, alsoGiven⟩
      · exact .inl (congrArg Except.ok same)
      · exact .inr ⟨one, other, congrArg Except.ok found, given, congrArg Except.ok alsoFound,
          alsoGiven⟩
  | null | bool | int | real | list | object => exact .inl rfl

/-- A pool asks its forge with the same credential. -/
theorem authToken {pool : Pool} (member : pool ∈ pools) :
    pool.authToken second = pool.authToken first := by
  simp only [Pool.authToken, Environment.variable]
  split
  next content named =>
    split
    · rfl
    next name settled =>
      rcases corresponds name with same | ⟨unused, _⟩
      · exact congrArg Except.ok same
      · exact absurd ⟨content, named, settled⟩ (unused pool member)
  · rfl

end Environment.Corresponds

/-! ## Histories -/

/-- The request that a call makes. -/
def Call.request? : Call → Option Request
  | .ask request => some request
  | _ => none

/-- The requests that calls make. -/
def requestsOf (calls : List Call) : List Request :=
  calls.filterMap Call.request?

/-- Calls that are the same up to the credential with which a runner registers. -/
inductive Call.Corresponds (pools : List Pool) (first second : Environment) :
    Call → Call → Prop where
  | same {made : Call} (idle : made.isRun = false) : Corresponds pools first second made made
  | run
      {pool : Pool}
      (member : pool ∈ pools)
      (launcher : Launcher)
      (labels : List Text)
      (name : Text)
      {token other : Text}
      (found : pool.registrationToken first = .ok (some token))
      (alsoFound : pool.registrationToken second = .ok (some other)) :
      Corresponds pools first second (.run (launcher.spec pool labels token name))
        (.run (launcher.spec pool labels other name))

/-- Histories of corresponding calls. -/
abbrev HistoriesCorrespond (pools : List Pool) (first second : Environment) :
    List Call → List Call → Prop :=
  List.Forall₂ (Call.Corresponds pools first second)

namespace HistoriesCorrespond

variable {here there : List Call} (alike : HistoriesCorrespond pools first second here there)

include alike

/-- Corresponding calls are of the same kinds. -/
theorem count (kind : CallKind) : Script.count kind there = Script.count kind here := by
  induction alike with
  | nil => rfl
  | cons same _ ih =>
    rw [Script.count, Script.count] at ih ⊢
    rw [List.countP_cons, List.countP_cons, ih]
    cases same with
    | same | run => rfl

theorem getLast? :
    Option.Rel (Call.Corresponds pools first second) here.getLast? there.getLast? := by
  have reversed := List.forall₂_reverse_iff.mpr alike
  rw [List.getLast?_eq_head?_reverse, List.getLast?_eq_head?_reverse]
  generalize here.reverse = first, there.reverse = second at reversed
  cases reversed with
  | nil => exact .none
  | cons same _ => exact .some same

/-- Corresponding calls make the same requests. -/
theorem requestsOf_eq : requestsOf there = requestsOf here := by
  induction alike with
  | nil => rfl
  | cons same _ ih =>
    rw [requestsOf, requestsOf] at ih ⊢
    rw [List.filterMap_cons, List.filterMap_cons, ih]
    cases same with
    | same | run => rfl

end HistoriesCorrespond

/-! ## Worlds -/

/-- Two outsides that make the same of alike histories. -/
structure Outside.Corresponds
    (alike : List Call → List Call → Prop)
    (outside other : Outside) : Prop where
  limits : other.limits = outside.limits
  serve :
    ∀ {here there},
      alike here there → ∀ request, other.serve there request = outside.serve here request
  connectFault :
    ∀ {here there}, alike here there → other.connectFault there = outside.connectFault here
  listFault : ∀ {here there}, alike here there → other.listFault there = outside.listFault here
  runFault : ∀ {here there}, alike here there → other.runFault there = outside.runFault here
  publishFault :
    ∀ {here there}, alike here there → other.publishFault there = outside.publishFault here
  settle : ∀ {here there}, alike here there → other.settle there = outside.settle here
  clockAfter :
    ∀ {here there}, alike here there → other.clockAfter there = outside.clockAfter here
  interrupts :
    ∀ {here there}, alike here there → other.interrupts there = outside.interrupts here
  signal : other.signal = outside.signal
  choice : other.choice = outside.choice

/-- An outside that follows a script makes the same of corresponding histories. -/
theorem Script.outside_corresponds (script : Script) :
    Outside.Corresponds (HistoriesCorrespond pools first second) script.outside
      script.outside where
  limits := rfl
  serve _ _ := rfl
  connectFault _ := rfl
  listFault alike := congrArg (script.listFaults.lookup ·) (alike.count _)
  runFault alike := congrArg (script.runFaults.lookup ·) (alike.count _)
  publishFault _ := rfl
  settle _ := rfl
  clockAfter := by
    intro here there alike
    funext clock
    have last := alike.getLast?
    simp only [outside]
    generalize here.getLast? = one, there.getLast? = other at last
    cases last with
    | none => rfl
    | some same =>
      cases same with
      | same | run => rfl
  interrupts := by
    intro here there alike
    have fires (trigger : Trigger) : fires there trigger = fires here trigger := by
      have last := alike.getLast?
      rw [Script.fires, Script.fires, alike.count]
      generalize here.getLast? = one, there.getLast? = other at last
      cases last with
      | none => rfl
      | some same =>
        cases same with
        | same | run => rfl
    simp only [outside, funext fires]
  signal := rfl
  choice := rfl

/-- Two worlds with given environments that differ in nothing but credentials for
registration. -/
structure World.Corresponds
    (pools : List Pool)
    (first second : Environment)
    (here there : World) : Prop where
  environments : Environment.Corresponds pools first second
  environment : here.environment = first
  alsoEnvironment : there.environment = second
  outside :
    Outside.Corresponds (HistoriesCorrespond pools first second) here.outside there.outside
  history : HistoriesCorrespond pools first second here.history there.history
  rest :
    { there with
        outside := here.outside
        environment := here.environment
        history := here.history } =
      here

/-- A change of a world that has nothing to do with what corresponding worlds differ in. -/
def World.Aside (change : World → World) : Prop :=
  ∀ world outside environment history,
    change { world with outside, environment, history } =
      { change world with outside, environment, history }

namespace World.Corresponds

variable {here there : World} (corresponds : World.Corresponds pools first second here there)

include corresponds

theorem stopped : there.stopped = here.stopped :=
  (congrArg World.stopped corresponds.rest :)

theorem clock : there.clock = here.clock :=
  (congrArg World.clock corresponds.rest :)

theorem containers : there.containers = here.containers :=
  (congrArg World.containers corresponds.rest :)

theorem directory : there.directory = here.directory :=
  (congrArg World.directory corresponds.rest :)

theorem requestsLeft : there.requestsLeft = here.requestsLeft :=
  (congrArg World.requestsLeft corresponds.rest :)

theorem waitsLeft : there.waitsLeft = here.waitsLeft :=
  (congrArg World.waitsLeft corresponds.rest :)

theorem choices : there.choices = here.choices :=
  (congrArg World.choices corresponds.rest :)

theorem connected : there.connected = here.connected :=
  (congrArg World.connected corresponds.rest :)

theorem announcing : there.announcing = here.announcing :=
  (congrArg World.announcing corresponds.rest :)

theorem log : there.log = here.log :=
  (congrArg World.log corresponds.rest :)

/-- A change that has nothing to do with the difference is the same on both sides. -/
theorem map {change : World → World} (aside : World.Aside change) :
    World.Corresponds pools first second (change here) (change there) := by
  have outside (world : World) : (change world).outside = world.outside :=
    (congrArg World.outside (aside world world.outside world.environment world.history) :)
  have environment (world : World) : (change world).environment = world.environment :=
    (congrArg World.environment (aside world world.outside world.environment world.history) :)
  have history (world : World) : (change world).history = world.history :=
    (congrArg World.history (aside world world.outside world.environment world.history) :)
  exact
    { environments := corresponds.environments
      environment := (environment here).trans corresponds.environment
      alsoEnvironment := (environment there).trans corresponds.alsoEnvironment
      outside := by
        rw [outside, outside]
        exact corresponds.outside
      history := by
        rw [history, history]
        exact corresponds.history
      rest := by
        rw [outside, environment, history]
        exact (aside there _ _ _).symm.trans (congrArg change corresponds.rest) }

/-- Corresponding calls are entered in the histories. -/
theorem enter
    {made mirrored : Call}
    (alike : Call.Corresponds pools first second made mirrored) :
    World.Corresponds pools first second { here with history := here.history ++ [made] }
      { there with history := there.history ++ [mirrored] } :=
  { corresponds with
    history := List.rel_append corresponds.history (.cons alike .nil)
    rest :=
      (congrArg (fun world => { world with history := here.history ++ [made] })
        corresponds.rest :) }

/-- Corresponding calls leave corresponding worlds. -/
theorem call
    {made mirrored : Call}
    (alike : Call.Corresponds pools first second made mirrored) :
    World.Corresponds pools first second (here.call made) (there.call mirrored) := by
  have history := List.rel_append corresponds.history (.cons alike .nil)
  refine { corresponds with history, rest := ?_ }
  simp only [World.call, corresponds.outside.clockAfter history,
    corresponds.outside.settle history, corresponds.outside.interrupts history,
    corresponds.outside.signal, corresponds.clock, corresponds.containers, corresponds.stopped,
    corresponds.announcing, corresponds.log, corresponds.directory, corresponds.requestsLeft,
    corresponds.waitsLeft, corresponds.choices, corresponds.connected]

end World.Corresponds

/-! ## Acts -/

namespace Act

/-- From two worlds two acts end with the same answer, and leave corresponding worlds. -/
structure Matches
    (pools : List Pool)
    (first second : Environment)
    (here there : World)
    (act other : Act Answer) : Prop where
  answer : (other.run there).1 = (act.run here).1
  after : World.Corresponds pools first second (act.run here).2 (other.run there).2

/-- From all corresponding worlds two acts end with the same answer, and leave corresponding
worlds. -/
def Corresponds
    (pools : List Pool)
    (first second : Environment)
    (act other : Act Answer) : Prop :=
  ∀ here there,
    World.Corresponds pools first second here there →
      Matches pools first second here there act other

/-- An act corresponds to itself. -/
abbrev Discreet (pools : List Pool) (first second : Environment) (act : Act Answer) : Prop :=
  Corresponds pools first second act act

namespace Matches

variable {here there : World}

protected theorem pure
    (answer : Answer)
    (corresponds : World.Corresponds pools first second here there) :
    Matches pools first second here there (pure answer) (pure answer) :=
  ⟨rfl, corresponds⟩

theorem get
    {next following : World → Act Result}
    (further : Matches pools first second here there (next here) (following there)) :
    Matches pools first second here there (MonadState.get >>= next)
      (MonadState.get >>= following) :=
  ⟨further.answer, further.after⟩

theorem set
    {after beyond : World}
    {next following : PUnit → Act Result}
    (further : Matches pools first second after beyond (next ⟨⟩) (following ⟨⟩)) :
    Matches pools first second here there (MonadStateOf.set after >>= next)
      (MonadStateOf.set beyond >>= following) :=
  ⟨further.answer, further.after⟩

end Matches

namespace Corresponds

protected theorem pure (answer : Answer) :
    Corresponds pools first second (pure answer) (pure answer) :=
  fun _ _ => Matches.pure answer

protected theorem bind
    {act other : Act Answer}
    {next following : Answer → Act Result}
    (begin : Corresponds pools first second act other)
    (further : ∀ answer, Corresponds pools first second (next answer) (following answer)) :
    Corresponds pools first second (act >>= next) (other >>= following) := by
  intro here there corresponds
  rcases begin here there corresponds with ⟨same, between⟩
  rcases further (act.run here).1 _ _ between with ⟨also, after⟩
  constructor
  · rw [run_bind, run_bind, same]
    exact also
  · rw [run_bind, run_bind, same]
    exact after

theorem attempt_lift_bind
    {act other : Act Answer}
    {next following : Answer → Attempt Result}
    (begin : Corresponds pools first second act other)
    (further :
      ∀ answer, Corresponds pools first second (next answer).run (following answer).run) :
    Corresponds pools first second (liftM act >>= next : Attempt Result).run
      (liftM other >>= following : Attempt Result).run :=
  begin.bind further

end Corresponds

/-- That acts correspond to themselves is passed on from their parts. -/
theorem discreet_passedOn (pools : List Pool) (first second : Environment) :
    PassedOn fun act => Discreet pools first second act where
  returns := .pure
  composes := .bind

end Act

/-! ## Acts on the world -/

theorem noteAll_discreet (lines : List LogLine) :
    Act.Discreet pools first second (noteAll lines) := by
  intro here there corresponds
  have aside : World.Aside fun world => { world with log := world.log ++ lines } :=
    fun _ _ _ _ => rfl
  exact ⟨rfl, corresponds.map aside⟩

theorem isStopped_discreet : Act.Discreet pools first second isStopped :=
  fun _ _ corresponds => ⟨corresponds.stopped, corresponds⟩

theorem now_discreet : Act.Discreet pools first second now :=
  fun _ _ corresponds => ⟨corresponds.clock, corresponds⟩

theorem limits_discreet : Act.Discreet pools first second limits :=
  fun _ _ corresponds => ⟨corresponds.outside.limits, corresponds⟩

theorem draw_discreet (alternatives : Nat) :
    Act.Discreet pools first second (draw alternatives) := by
  intro here there corresponds
  apply Act.Matches.get
  rw [corresponds.outside.choice, corresponds.choices]
  apply Act.Matches.set
  have aside : World.Aside fun world => { world with choices := here.choices + 1 } :=
    fun _ _ _ _ => rfl
  exact .pure _ (corresponds.map aside)

theorem ask_discreet (request : Request) : Act.Discreet pools first second (ask request) := by
  intro here there corresponds
  have called :
      World.Corresponds pools first second (here.call (.ask request))
        (there.call (.ask request)) :=
    corresponds.call (.same rfl)
  apply Act.Matches.get
  dsimp only
  rw [called.requestsLeft]
  split
  · exact .set (.pure _ called)
  next left _ =>
    have aside : World.Aside fun world => { world with requestsLeft := left } :=
      fun _ _ _ _ => rfl
    rw [called.outside.serve called.history request]
    exact .set (.pure _ (called.map aside))

theorem connect_discreet : Act.Discreet pools first second connect := by
  intro here there corresponds
  apply Act.Matches.get
  rw [corresponds.connected, corresponds.outside.connectFault corresponds.history]
  split
  · exact .pure _ corresponds
  · split
    · exact .pure _ corresponds
    · have aside : World.Aside fun world => { world with connected := true } :=
        fun _ _ _ _ => rfl
      exact .set (.pure _ (corresponds.map aside))

theorem listContainers_discreet (pool : Text) :
    Act.Discreet pools first second (listContainers pool) := by
  apply Act.Corresponds.bind connect_discreet
  intro refused
  cases refused with
  | some fault => exact .pure _
  | none =>
    intro here there corresponds
    have called :
        World.Corresponds pools first second (here.call (.list pool)) (there.call (.list pool)) :=
      corresponds.call (.same rfl)
    apply Act.Matches.get
    apply Act.Matches.set
    rw [called.outside.listFault called.history, called.containers]
    split
    · exact .pure _ called
    · exact .pure _ called

/-- Runners that are started with different credentials are started alike. -/
theorem runContainer_corresponds
    {pool : Pool}
    (member : pool ∈ pools)
    (launcher : Launcher)
    (labels : List Text)
    (name : Text)
    {token other : Text}
    (found : pool.registrationToken first = .ok (some token))
    (alsoFound : pool.registrationToken second = .ok (some other)) :
    Act.Corresponds pools first second
      (runContainer (launcher.spec pool labels token name))
      (runContainer (launcher.spec pool labels other name)) := by
  apply Act.Corresponds.bind connect_discreet
  intro refused
  cases refused with
  | some fault => exact .pure _
  | none =>
    intro here there corresponds
    have called := corresponds.call (.run member launcher labels name found alsoFound)
    apply Act.Matches.get
    dsimp only
    rw [called.outside.runFault called.history, Launcher.pool_spec, Launcher.pool_spec]
    split
    · exact .set (.pure _ called)
    · have aside :
          World.Aside fun world =>
            { world with containers := world.containers ++ [⟨pool.name, "running"⟩] } :=
        fun _ _ _ _ => rfl
      exact .set (.pure _ (called.map aside))

theorem wait_discreet (seconds : Int) : Act.Discreet pools first second (wait seconds).run := by
  intro here there corresponds
  have same : Call.Corresponds pools first second (.wait seconds) (.wait seconds) := .same rfl
  have refusal :
      there.outside.refusesWait there.stopped seconds =
        here.outside.refusesWait here.stopped seconds := by
    rw [Outside.refusesWait, Outside.refusesWait, corresponds.outside.limits,
      corresponds.stopped]
  have mine := wait_run seconds here
  have theirs := wait_run seconds there
  rw [refusal] at theirs
  cases refused : here.outside.refusesWait here.stopped seconds with
  | true =>
    rw [refused, if_pos rfl] at mine theirs
    constructor
    · rw [mine, theirs]
    · rw [mine, theirs]
      exact corresponds.enter same
  | false =>
    rw [refused, if_neg Bool.false_ne_true] at mine theirs
    have aside :
        World.Aside fun world =>
          { world with
            waitsLeft := world.waitsLeft - 1
            stopped := world.stopped || world.waitsLeft - 1 == 0 } :=
      fun _ _ _ _ => rfl
    constructor
    · rw [mine, theirs]
    · rw [mine, theirs]
      exact (corresponds.call same).map aside

/-- What a publication says of its failure is the same. -/
theorem published_discreet (path : Text) (failure? : Option Failure) :
    Act.Discreet pools first second
      (match failure? with
        | none => pure ()
        | some failure =>
          if failure.ofSystem then
            note .warning ("Failed to write status file " ++ path ++ ": " ++ failure.message)
          else
            throw failure : Attempt Unit).run := by
  have passed := Act.discreet_passedOn pools first second
  split
  · exact passed.attempt_pure ()
  · split
    · exact passed.attempt_lift (noteAll_discreet _)
    · exact passed.attempt_throw _

theorem publish_discreet (path : Text) (document : Fields) :
    Act.Discreet pools first second (publish path document).run := by
  intro here there corresponds
  have aside (directory : Directory) : World.Aside fun world => { world with directory } :=
    fun _ _ _ _ => rfl
  have same : there.published path document = here.published path document := by
    rw [World.published, World.published, corresponds.directory,
      corresponds.outside.publishFault corresponds.history]
  rcases published_discreet path _ _ _ (corresponds.map (aside _)) with ⟨answer, after⟩
  constructor
  · rw [publish_run, publish_run, same]
    exact answer
  · rw [publish_run, publish_run, same]
    exact after

/-! ## Passes -/

theorem Forge.discreet_passedToFetches :
    Act.PassedToFetches fun act => Act.Discreet pools first second act where
  toPassedOn := Act.discreet_passedOn pools first second
  isStopped := isStopped_discreet
  now := now_discreet
  limits := limits_discreet
  noteAll := noteAll_discreet
  listing := by
    intro Item paged fetchPage _ pages pageSize operation here there corresponds
    -- As many requests are left on both sides, so the pages have the same bound.
    have same :
        Act.Matches pools first second here there
          (pagesFrom pageSize operation fetchPage (here.requestsLeft + 1) 1).run
          (pagesFrom pageSize operation fetchPage (there.requestsLeft + 1) 1).run := by
      rw [corresponds.requestsLeft]
      exact pagesFrom_holds (Act.discreet_passedOn pools first second) pages _ 1 here there
        corresponds
    exact ⟨same.answer, same.after⟩

namespace Provisioner

variable (provisioner : Provisioner) {pool : Pool}

section

variable (member : pool ∈ pools)

include member

section

variable
  {token other : Text}
  (found : pool.registrationToken first = .ok (some token))
  (alsoFound : pool.registrationToken second = .ok (some other))

include found alsoFound

theorem start_corresponds (launcher : Launcher) (labels : List Text) :
    Act.Corresponds pools first second (launcher.start pool labels token).run
      (launcher.start pool labels other).run := by
  have passed := Act.discreet_passedOn pools first second
  apply Act.Corresponds.attempt_lift_bind (Launcher.drawSuffix_holds passed draw_discreet _)
  intro suffix
  apply Act.Corresponds.attempt_lift_bind
    (runContainer_corresponds member launcher labels _ found alsoFound)
  intro outcome
  cases outcome with
  | error fault =>
    dsimp only
    split
    · exact passed.attempt_throw _
    · exact passed.attempt_throw _
  | ok done =>
    apply passed.attempt_bind (passed.attempt_lift (noteAll_discreet _))
    intro done
    exact passed.attempt_pure _

theorem startEach_corresponds (labels : List Text) (candidates : List Candidate) :
    Act.Corresponds pools first second (provisioner.startEach pool token labels candidates)
      (provisioner.startEach pool other labels candidates) := by
  induction candidates with
  | nil => exact .pure _
  | cons candidate rest ih =>
    apply Act.Corresponds.bind isStopped_discreet
    intro stopped
    split
    · exact .pure _
    · apply Act.Corresponds.bind
        (start_corresponds member found alsoFound provisioner.launcher labels)
      intro outcome
      cases outcome with
      | error failure => exact .pure _
      | ok runner =>
        apply Act.Corresponds.bind now_discreet
        intro time
        apply Act.Corresponds.bind (noteAll_discreet _)
        intro done
        apply Act.Corresponds.bind ih
        intro starts
        exact .pure _

end

theorem startAll_discreet (labels : List Text) (candidates : List Candidate) :
    Act.Discreet pools first second (provisioner.startAll pool labels candidates) := by
  rw [startAll]
  split
  · exact .pure _
  · intro here there corresponds
    apply Act.Matches.get
    rw [corresponds.environment, corresponds.alsoEnvironment]
    rcases corresponds.environments.variable_cases pool.registrationVariable with
      same | ⟨token, other, found, given, alsoFound, alsoGiven⟩
    · have same : pool.registrationToken second = pool.registrationToken first := same
      rw [same]
      cases found : pool.registrationToken first with
      | error failure => exact .pure _ corresponds
      | ok content =>
        cases content with
        | none => exact .pure _ corresponds
        | some token =>
          dsimp only
          split
          · exact .pure _ corresponds
          · rw [found] at same
            exact provisioner.startEach_corresponds member found same labels candidates
              here there corresponds
    -- Where the credentials differ there is one on either side, so neither goes without.
    · have found : pool.registrationToken first = .ok (some token) := found
      have alsoFound : pool.registrationToken second = .ok (some other) := alsoFound
      rw [found, alsoFound]
      have filled : token.isEmpty = false := by simpa using given
      have alsoFilled : other.isEmpty = false := by simpa using alsoGiven
      simp only [filled, alsoFilled, Bool.false_eq_true, if_false]
      exact provisioner.startEach_corresponds member found alsoFound labels candidates
        here there corresponds

theorem reconcile_discreet (status : PoolStatus) :
    Act.Discreet pools first second (provisioner.reconcile pool status) :=
  provisioner.reconcile_holds pool Forge.discreet_passedToFetches
    (fun _ _ _ _ => Forge.request_holds Forge.discreet_passedToFetches (ask_discreet _) _)
    (provisioner.startAll_discreet member _) (listContainers_discreet _) status

end

theorem ofPools_corresponds
    (corresponds : Environment.Corresponds pools first second)
    (settings : Settings)
    (launcher : Launcher) :
    ofPools settings second launcher pools = ofPools settings first launcher pools := by
  have made {pool : Pool} (member : pool ∈ pools) :
      ofPool settings second launcher pool = ofPool settings first launcher pool := by
    rw [ofPool, ofPool, corresponds.authToken member]
  have named {visited : List Pool} (among : visited ⊆ pools) :
      (visited.mapM fun pool => do
          let provisioner ← ofPool settings second launcher pool
          pure (pool.name, provisioner)) =
        (visited.mapM fun pool => do
          let provisioner ← ofPool settings first launcher pool
          pure (pool.name, provisioner)) := by
    induction visited with
    | nil => rfl
    | cons pool rest ih =>
      rcases List.cons_subset.mp among with ⟨member, others⟩
      rw [List.mapM_cons, List.mapM_cons, made member, ih others]
  rw [ofPools, ofPools, named (List.Subset.refl pools)]

end Provisioner

/-! ## Rounds -/

namespace Fleet

theorem visit_discreet (fleet : Fleet) {pool : Pool} (member : pool ∈ pools) :
    Act.Discreet pools first second (fleet.visit pool) := by
  rw [visit]
  split
  · exact .pure _
  next provisioner _ =>
    apply Act.Corresponds.bind (provisioner.reconcile_discreet member _)
    rintro ⟨left, status, decision⟩
    exact .pure _

theorem visitAll_discreet (fleet : Fleet) {visited : List Pool} (among : visited ⊆ pools) :
    Act.Discreet pools first second (fleet.visitAll visited) := by
  induction visited generalizing fleet with
  | nil => exact .pure _
  | cons pool rest ih =>
    rcases List.cons_subset.mp among with ⟨member, others⟩
    apply Act.Corresponds.bind (fleet.visit_discreet member)
    intro left
    exact ih left others

theorem attempting_discreet
    (fleet : Fleet)
    {attempt : Attempt Unit}
    (discreet : Act.Discreet pools first second attempt.run) :
    Act.Discreet pools first second (fleet.attempting attempt) := by
  apply Act.Corresponds.bind discreet
  intro outcome
  cases outcome with
  | error failure => exact .pure _
  | ok done => exact .pure _

variable (settings : Settings) (limit : Option Int)

theorem round_discreet (fleet : Fleet) :
    Act.Discreet pools first second (fleet.round settings pools) := by
  apply Act.Corresponds.bind (fleet.visitAll_discreet (List.Subset.refl pools))
  intro visited
  split
  · exact visited.attempting_discreet (publish_discreet _ _)
  · exact .pure _

theorem advance_discreet (completed : Int) (fleet : Fleet) :
    Act.Discreet pools first second (fleet.advance settings pools limit completed) := by
  apply Act.Corresponds.bind isStopped_discreet
  intro stopped
  split
  · exact .pure _
  · apply Act.Corresponds.bind (fleet.round_discreet settings)
    intro worked
    split
    · exact .pure _
    · apply Act.Corresponds.bind
        (worked.fleet.attempting_discreet (wait_discreet settings.pollInterval))
      intro waited
      split
      · exact .pure _
      · exact .pure _

theorem roundsFrom_discreet (bound : Nat) (completed : Int) (fleet : Fleet) :
    Act.Discreet pools first second (roundsFrom settings pools limit bound completed fleet) := by
  induction bound generalizing completed fleet with
  | zero => exact .pure _
  | succ bound ih =>
    apply Act.Corresponds.bind (advance_discreet settings limit completed fleet)
    intro progress
    cases progress with
    | ended ending => exact .pure _
    | onward fleet => exact ih _ fleet

theorem rounds_discreet (fleet : Fleet) :
    Act.Discreet pools first second (fleet.rounds settings pools limit) := by
  intro here there corresponds
  apply Act.Matches.get
  rw [corresponds.waitsLeft]
  exact roundsFrom_discreet settings limit _ 0 fleet here there corresponds

end Fleet

theorem patrol_discreet (settings : Settings) (launcher : Launcher) (limit : Option Int) :
    Act.Discreet pools first second (patrol settings pools launcher none limit).run := by
  have passed := Act.discreet_passedOn pools first second
  intro here there corresponds
  -- A patrol looks at the environment once, for the credentials with which it asks.
  have same :
      Act.Matches pools first second here there
        (do
          let provisioners ←
            liftExcept (Provisioner.ofPools settings here.environment launcher pools)
          if hasWorkers settings pools then
            (Fleet.start pools provisioners).rounds settings pools limit
          else
            throw .workersNotPositive : Attempt FleetEnd).run
        (do
          let provisioners ←
            liftExcept (Provisioner.ofPools settings there.environment launcher pools)
          if hasWorkers settings pools then
            (Fleet.start pools provisioners).rounds settings pools limit
          else
            throw .workersNotPositive : Attempt FleetEnd).run := by
    rw [corresponds.environment, corresponds.alsoEnvironment,
      Provisioner.ofPools_corresponds corresponds.environments]
    refine passed.attempt_bind (passed.attempt_liftExcept _) ?_ here there corresponds
    intro provisioners
    split
    · exact passed.attempt_lift (Fleet.rounds_discreet settings limit _)
    · exact passed.attempt_throw _
  exact ⟨same.answer, same.after⟩

/-- The requests that are made in a patrol. -/
def patrolRequests
    (settings : Settings)
    (pools : List Pool)
    (launcher : Launcher)
    (limit : Option Int)
    (world : World) : List Request :=
  requestsOf (((patrol settings pools launcher none limit).run.run world).2.callsSince world)

/-- A patrol takes credentials nowhere but where they belong.

Every visit is to one of the pools and makes no call that the pool does not confine, and apart
from waits there are no other calls.  What the credentials for registration are makes no
difference to the requests: in a world that differs in nothing else these are the same. -/
theorem patrol_confidential
    (settings : Settings)
    {pools : List Pool}
    (launcher : Launcher)
    (limit : Option Int)
    {world : World}
    (valid : Pool.allViolations world.environment pools = .ok []) :
    (∀ visits ∈ patrolVisits settings pools launcher limit world,
        ∀ visit ∈ visits,
          visit.pool ∈ pools ∧
            ∀ made ∈ visit.calls, visit.pool.Confines world.environment made) ∧
      world.Makes
          (fun made =>
            made.isWait = true ∨
              ∃ visits ∈ patrolVisits settings pools launcher limit world,
                ∃ visit ∈ visits, made ∈ visit.calls)
          ((patrol settings pools launcher none limit).run.run world).2 ∧
        ∀ {other},
          World.Corresponds pools world.environment other.environment world other →
            patrolRequests settings pools launcher limit other =
              patrolRequests settings pools launcher limit world := by
  rcases patrol_confines settings launcher limit valid with ⟨confined, told⟩
  refine ⟨confined, told, ?_⟩
  intro other corresponds
  have after := (patrol_discreet settings launcher limit world other corresponds).after
  -- The histories before are equally long, so what came since corresponds as well.
  have since := List.forall₂_drop world.history.length after.history
  rw [patrolRequests, patrolRequests, World.callsSince, World.callsSince,
    ← corresponds.history.length_eq]
  exact HistoriesCorrespond.requestsOf_eq since

/-! ## A pool that adds to the environment of its runners -/

/-- A pool whose definition sets the variables with which its runners register. -/
def Pool.meddling : Pool where
  name := "builders"
  scope := .known .user
  url := "http://forge/"
  capacity := 1
  user := "ada"
  extraEnvironment :=
    [("GITEA_INSTANCE_URL", "http://elsewhere"), ("GITEA_RUNNER_REGISTRATION_TOKEN", "forged")]

/-- A world with a credential for registration, in which a forge names a repository as if it
were elsewhere. -/
def World.entrusted (registration : Text) : World :=
  { World.waiting 1000.0 with
    environment :=
      [("GITEA_AUTH_TOKEN", "secret"), ("GITEA_RUNNER_REGISTRATION_TOKEN", registration)]
    outside :=
      Script.outside
        { routes :=
            [⟨some (.text "http://forge/api/v1/users/ada/repos"), none, none,
                .answer 200
                  "[\x7b\"owner\": \x7b\"login\": \"//elsewhere\"\x7d, \"name\": \"tools\"\x7d]"⟩,
              ⟨none, some (.text "queued"), none,
                .answer 200 "\x7b\"jobs\": [\x7b\"id\": 7\x7d]\x7d"⟩] } }

/-- The worlds with two credentials for registration differ in nothing else. -/
theorem World.entrusted_corresponds
    {pools : List Pool}
    (unused : ∀ pool ∈ pools, ¬ pool.authVariable.Names "GITEA_RUNNER_REGISTRATION_TOKEN")
    {registration other : Text}
    (given : registration ≠ [])
    (alsoGiven : other ≠ []) :
    World.Corresponds pools (World.entrusted registration).environment
      (World.entrusted other).environment (World.entrusted registration)
      (World.entrusted other) where
  environments := by
    intro name
    by_cases own : name = "GITEA_RUNNER_REGISTRATION_TOKEN"
    · subst own
      exact .inr ⟨unused, registration, other, by rfl, given, by rfl, alsoGiven⟩
    · have apart : (name == "GITEA_RUNNER_REGISTRATION_TOKEN") = false := by simpa using own
      left
      simp only [World.entrusted, Environment.content?, List.lookup_cons, apart]
  environment := rfl
  alsoEnvironment := rfl
  outside := Script.outside_corresponds _
  history := .nil
  rest := rfl

/-- In its round the pool asks for the repositories and for the jobs of the only one, in three
statuses, and starts a runner; with another credential for registration it asks for the same. -/
theorem patrol_confidential_meddling :
    let pools := [Pool.meddling]
    let world := World.entrusted "one"
    let other := World.entrusted "two"
    Pool.allViolations world.environment pools = .ok [] ∧
      World.Corresponds pools world.environment other.environment world other ∧
        ((patrolVisits Settings.plain pools {} (some 1) world).map fun round =>
            round.map fun visit => (visit.calls.length, visit.calls.countP Call.isRun)) =
          [[(6, 1)]] ∧
          (∀ visits ∈ patrolVisits Settings.plain pools {} (some 1) world,
              ∀ visit ∈ visits,
                visit.pool ∈ pools ∧
                  ∀ made ∈ visit.calls, visit.pool.Confines world.environment made) ∧
            (patrolRequests Settings.plain pools {} (some 1) world).length = 4 ∧
              patrolRequests Settings.plain pools {} (some 1) other =
                patrolRequests Settings.plain pools {} (some 1) world := by
  intro pools world other
  have valid : Pool.allViolations world.environment pools = .ok [] :=
    Pool.violations_eq_nil (by decide +kernel)
  have unused :
      ∀ pool ∈ pools, ¬ pool.authVariable.Names "GITEA_RUNNER_REGISTRATION_TOKEN" := by
    intro pool member
    rw [List.mem_singleton.mp member]
    rintro ⟨_, ⟨⟩, settled⟩
    revert settled
    decide +kernel
  have corresponds :
      World.Corresponds pools world.environment other.environment world other :=
    World.entrusted_corresponds unused (by decide) (by decide)
  rcases patrol_confidential Settings.plain {} (some 1) valid with ⟨confined, _, same⟩
  refine ⟨valid, corresponds, ?_, confined, ?_, same corresponds⟩
  · decide +kernel
  · decide +kernel

end RunnerFleet
