import RunnerFleet.Proofs.Completeness
import RunnerFleet.Proofs.Likeness
import RunnerFleet.Proofs.Patrolling
import RunnerFleet.Proofs.Recording

/-!
# A pool's pass agrees with itself

From two worlds in which a pool is served alike, its pass makes alike calls, leaves the same
ledger, and leaves statuses that are the same up to the names of runners.  Requests and their
replies are the same; only the random part of a runner's name differs, and it reaches nothing
but the container itself and the report of its failure.

This follows the pass from its parts: the two calls on the outside, the fetch, the starting of
runners, and the count of the live ones.
-/

namespace RunnerFleet

variable {pool : Pool}

/-! ## Calls -/

namespace Outside.Concurs

variable
  {first second : Outside}
  {here there : Moment}
  {made mirrored : Call}

/-- Alike calls to start a runner succeed alike. -/
theorem startsAt_eq
    (concurs : Concurs pool first second here there made mirrored)
    (runs : made.isRun = true) :
    second.startsAt (there.history ++ [mirrored]) = first.startsAt (here.history ++ [made]) := by
  have start := concurs.start runs
  rw [startsAt, startsAt]
  generalize first.runFault (here.history ++ [made]) = fault? at start ⊢
  generalize second.runFault (there.history ++ [mirrored]) = other? at start ⊢
  cases start with
  | some _ => rfl
  | none => rfl

/-- After alike calls the containers of the pool are the same, if they were before. -/
theorem containers_step
    (concurs : Concurs pool first second here there made mirrored)
    (alike : made.Alike pool mirrored)
    (apart : first.KeepsApart pool.name)
    (alsoApart : second.KeepsApart pool.name)
    (same : ofPool pool.name there.containers = ofPool pool.name here.containers) :
    ofPool pool.name (second.step there mirrored).containers =
      ofPool pool.name (first.step here made).containers := by
  have settled :
      ofPool pool.name (second.settle (there.history ++ [mirrored]) there.containers) =
        ofPool pool.name (first.settle (here.history ++ [made]) here.containers) := by
    rw [alsoApart, apart, same]
    exact concurs.settling here.containers
  cases alike with
  | ask request => exact settled
  | list => exact settled
  | run launcher labels token named alsoNamed =>
    have starts := concurs.startsAt_eq rfl
    simp only [step, lapse, starts, Launcher.pool_spec]
    split
    · simp only [ofPool, List.filter_append] at settled ⊢
      rw [settled]
    · exact settled

end Outside.Concurs

/-- After alike calls two worlds are beside each other, and show the same time. -/
theorem World.Beside.step
    {here there after beyond : World}
    (beside : World.Beside pool here there)
    {made mirrored : Call}
    (alike : made.Alike pool mirrored)
    (concurs :
      Outside.Concurs pool here.outside there.outside here.moment there.moment made mirrored)
    (follows : here.Follows [made] after)
    (alsoFollows : there.Follows [mirrored] beyond) :
    World.Beside pool after beyond ∧ beyond.clock = after.clock where
  left :=
    { limits := by rw [follows.outside, alsoFollows.outside, beside.limits]
      containers := by
        rw [follows.containers, alsoFollows.containers]
        exact concurs.containers_step alike beside.apart beside.alsoApart beside.containers
      environment := by
        rw [follows.environment, alsoFollows.environment, beside.environment]
      apart := by rw [follows.outside]; exact beside.apart
      alsoApart := by rw [alsoFollows.outside]; exact beside.alsoApart }
  right := by
    rw [follows.clock, alsoFollows.clock]
    exact concurs.clock

namespace Act

theorem connected_ask (request : Request) (world : World) :
    ((ask request).run world).2.connected = world.connected := by
  rw [RunnerFleet.ask, run_bind]
  dsimp only [StateT.run_get]
  split
  · rfl
  · rfl

theorem Steady.ask (request : Request) : Steady pool (ask request) where
  traced := .of_does fun world => ask_does world request
  alsoTraced := .of_does fun world => ask_does world request
  mirror := by
    intro here there calls others abreast parallel
    rcases ask_does here request with ⟨_, follows, rfl, replied, _⟩
    rcases ask_does there request with ⟨_, alsoFollows, rfl, alsoReplied, _⟩
    rcases parallel.calls_eq follows alsoFollows with ⟨rfl, rfl⟩
    have alike : Call.Alike pool (.ask request) (.ask request) := .ask request
    have concurs := (parallel.serve alike).1
    rcases abreast.toBeside.step alike concurs follows alsoFollows with ⟨beside, clock⟩
    refine ⟨.cons alike .nil, ?_, ?_⟩
    · rw [replied, alsoReplied, concurs.reply request rfl rfl]
    · exact
        { beside with
          clock
          connected := (connected_ask request here).trans abreast.connected
          alsoConnected := (connected_ask request there).trans abreast.alsoConnected }

end Act

/-! ## Fetches -/

section

variable {Item : Type} {paged : Listing Item} {fetchPage : Nat → Attempt (List Item)}

/-- A page that was read used up a request. -/
theorem Listing.FetchedBy.requestsLeft_lt
    (fetched : paged.FetchedBy fetchPage)
    {page : Nat}
    {world : World}
    {items : List Item}
    (read : ((fetchPage page).run.run world).1 = .ok items) :
    ((fetchPage page).run.run world).2.requestsLeft < world.requestsLeft := by
  rcases fetched page world with ⟨calls, follows, course⟩
  rw [read] at course
  generalize outcome : (Except.ok items : Except Failure (List Item)) = result at course
  cases course with
  | cancelled stopped => cases outcome
  | asked working =>
    have served : world.requestsLeft ≠ 0 := requestsLeft_of_read outcome.symm
    have left := congrArg Moment.requestsLeft follows.moment
    have fewer :
        ((fetchPage page).run.run world).2.requestsLeft = world.requestsLeft - 1 := left
    omega

/-- A bound on the pages of a listing that no world reaches makes no difference. -/
theorem Listing.FetchedBy.pagesFrom_bound
    (fetched : paged.FetchedBy fetchPage)
    (size : Int)
    (operation : String)
    {bound other : Nat}
    (page : Nat)
    {world : World}
    (enough : world.requestsLeft < bound)
    (alsoEnough : world.requestsLeft < other) :
    (Forge.pagesFrom size operation fetchPage bound page).run.run world =
      (Forge.pagesFrom size operation fetchPage other page).run.run world := by
  induction bound generalizing other page world with
  | zero => exact absurd enough (Nat.not_lt_zero _)
  | succ bound ih =>
    cases other with
    | zero => exact absurd alsoEnough (Nat.not_lt_zero _)
    | succ other =>
      rw [Forge.pagesFrom, Forge.pagesFrom, ExceptT.run_bind, ExceptT.run_bind, Act.run_bind,
        Act.run_bind]
      cases read : ((fetchPage page).run.run world).1 with
      | error failure => rfl
      | ok items =>
        have fewer := fetched.requestsLeft_lt read
        dsimp only
        split
        · rfl
        · have rest := @ih other (page + 1) ((fetchPage page).run.run world).2 (by omega) (by omega)
          rw [ExceptT.run_bind, ExceptT.run_bind, Act.run_bind, Act.run_bind, rest]

namespace Act.Steady

/-- The listing agrees with itself though it may be bounded differently in two worlds. -/
theorem listing
    (fetched : paged.FetchedBy fetchPage)
    (steady : ∀ page, Steady pool (fetchPage page).run)
    (size : Int)
    (operation : String) :
    Steady pool (Forge.listing size operation fetchPage).run where
  traced := Forge.listing_keeps World.leads_isCourse fun page => (steady page).traced
  alsoTraced := Forge.listing_keeps World.leads_isCourse fun page => (steady page).traced
  mirror := by
    intro here there calls others abreast parallel
    have bounded (world : World) (bound : Nat) (enough : world.requestsLeft < bound) :
        (Forge.listing size operation fetchPage).run.run world =
          (Forge.pagesFrom size operation fetchPage bound 1).run.run world :=
      fetched.pagesFrom_bound size operation 1 (Nat.lt_succ_self _) enough
    have alike : Steady pool
        (Forge.pagesFrom size operation fetchPage (here.requestsLeft + there.requestsLeft + 1)
          1).run :=
      Forge.pagesFrom_holds (passedOn pool) steady _ 1
    rw [bounded here (here.requestsLeft + there.requestsLeft + 1) (by omega),
      bounded there (here.requestsLeft + there.requestsLeft + 1) (by omega)] at parallel ⊢
    exact alike.mirror abreast parallel

theorem passedToFetches (pool : Pool) : PassedToFetches fun act => Steady pool act where
  toPassedOn := passedOn pool
  isStopped := isStopped
  now := now
  limits := limits
  noteAll lines := Agrees.noteAll lines lines
  listing := listing

/-- Up to the picking of candidates a pass agrees with itself. -/
theorem prospect (provisioner : Provisioner) (visited : Pool) :
    Steady pool (provisioner.prospect visited).run :=
  provisioner.prospect_holds visited (passedToFetches pool) fun _ _ _ _ =>
    Forge.request_holds (passedToFetches pool) (ask _) _

end Act.Steady

end

/-! ## Starts -/

/-- Two outcomes are both failures or both answers, and related as such. -/
inductive Outcomes {Problem Answer : Type}
    (problems : Problem → Problem → Prop)
    (answers : Answer → Answer → Prop) :
    Except Problem Answer → Except Problem Answer → Prop where
  | failed
      {problem other : Problem}
      (alike : problems problem other) :
      Outcomes problems answers (.error problem) (.error other)
  | answered
      {answer other : Answer}
      (alike : answers answer other) :
      Outcomes problems answers (.ok answer) (.ok other)

/-- An engine that can be reached is reached from then on. -/
theorem connect_reaches (world : World) :
    connect.Does world fun refused calls after =>
      calls = [] ∧
        refused = world.refusal? ∧ (refused = none → after.connected = true) := by
  refine Act.Does.bind (Act.Does.get ?_)
  rw [World.refusal?]
  split
  next reached => exact Act.Does.pure ⟨rfl, rfl, fun _ => reached⟩
  · split
    next fault refuses => exact Act.Does.pure ⟨rfl, refuses.symm, nofun⟩
    next reaches =>
      have follows : world.Follows [] { world with connected := true } := ⟨rfl, rfl, rfl⟩
      exact Act.Does.bind (Act.Does.set follows (Act.Does.pure ⟨rfl, reaches.symm, fun _ => rfl⟩))

/-- Where the engine was reached, a start is one call, and its outcome is that of the call. -/
theorem runContainer_reached
    {world : World}
    (connected : world.connected = true)
    (runner : RunnerSpec) :
    (runContainer runner).Does world fun outcome calls after =>
      calls = [.run runner] ∧
        after.connected = true ∧
          outcome =
            match world.outside.runFault (world.history ++ [.run runner]) with
            | some fault => .error fault
            | none => .ok () := by
  apply Act.Does.bind
  apply (connect_reaches world).mono
  rintro refused _ reached follows ⟨rfl, same, kept⟩
  obtain rfl : refused = none := by
    rw [same, World.refusal?, if_pos connected]
  have still : reached.connected = true := kept rfl
  have sameHistory : reached.history = world.history := by
    simpa using follows.history
  rw [← follows.outside, ← sameHistory]
  refine Act.Does.bind (Act.Does.get ?_)
  dsimp only [World.outside_call, World.history_call]
  cases outcome : reached.outside.runFault (reached.history ++ [.run runner]) with
  | some fault =>
    have fails : reached.outside.startsAt (reached.history ++ [.run runner]) = false :=
      congrArg Option.isNone outcome
    refine Act.Does.bind (Act.Does.set (reached.follows_run_of_fault fails) ?_)
    exact Act.Does.pure ⟨rfl, still, rfl⟩
  | none =>
    have starts : reached.outside.startsAt (reached.history ++ [.run runner]) = true :=
      congrArg Option.isNone outcome
    refine Act.Does.bind (Act.Does.set (reached.follows_run_of_start starts) ?_)
    exact Act.Does.pure ⟨rfl, still, rfl⟩

namespace Act.Agrees

variable {launcher : Launcher} {labels : List Text} {token : Text}

/-- Runners whose names alone differ are started alike. -/
theorem runContainer
    {name other : Text}
    (named : Runner.Names pool name)
    (alsoNamed : Runner.Names pool other) :
    Agrees pool (Outcomes (Fault.Alike pool) Eq)
      (runContainer (launcher.spec pool labels token name))
      (runContainer (launcher.spec pool labels token other)) where
  traced := .of_does fun world => runContainer_does world _
  alsoTraced := .of_does fun world => runContainer_does world _
  mirror := by
    intro here there calls others abreast parallel
    rcases runContainer_reached abreast.connected (launcher.spec pool labels token name) with
      ⟨_, follows, rfl, connected, outcome⟩
    rcases runContainer_reached abreast.alsoConnected
      (launcher.spec pool labels token other) with ⟨_, alsoFollows, rfl, alsoConnected, result⟩
    rcases parallel.calls_eq follows alsoFollows with ⟨rfl, rfl⟩
    have alike := Call.Alike.run launcher labels token named alsoNamed
    have concurs := (parallel.serve alike).1
    rcases abreast.toBeside.step alike concurs follows alsoFollows with ⟨beside, clock⟩
    refine ⟨.cons alike .nil, ?_, { beside with clock, connected, alsoConnected }⟩
    have start := concurs.start rfl
    rw [outcome, result]
    simp only [World.moment] at start
    generalize here.outside.runFault _ = fault? at start ⊢
    generalize there.outside.runFault _ = other? at start ⊢
    cases start with
    | some alike => exact .failed alike
    | none => exact .answered rfl

/-- Two suffixes have the usual length and characters, however they were drawn. -/
theorem drawSuffix (length : Nat) :
    Agrees pool
      (fun suffix other =>
        (suffix.length = length ∧ ∀ char ∈ suffix, char ∈ Runner.suffixAlphabet) ∧
          other.length = length ∧ ∀ char ∈ other, char ∈ Runner.suffixAlphabet)
      (Launcher.drawSuffix length) (Launcher.drawSuffix length) := by
  have draws (world : World) :
      (Launcher.drawSuffix length).Does world fun suffix calls after =>
        (calls = [] ∧ after.connected = world.connected) ∧
          suffix.length = length ∧ ∀ char ∈ suffix, char ∈ Runner.suffixAlphabet := by
    induction length generalizing world with
    | zero => exact Act.Does.pure ⟨⟨rfl, rfl⟩, rfl, nofun⟩
    | succ length ih =>
      have drawn :
          (draw Runner.suffixAlphabet.length).Does world fun _ calls after =>
            calls = [] ∧ after.connected = world.connected :=
        ⟨[], ⟨rfl, rfl, rfl⟩, rfl, rfl⟩
      refine Act.Does.bind (drawn.mono ?_)
      rintro index _ between _ ⟨rfl, kept⟩
      apply Act.Does.bind
      apply (ih between).mono
      rintro others _ after _ ⟨⟨rfl, still⟩, size, among⟩
      refine Act.Does.pure ⟨⟨rfl, still.trans kept⟩, congrArg _ size, ?_⟩
      refine List.forall_mem_cons.mpr ⟨?_, among⟩
      cases char : Runner.suffixAlphabet[index]? with
      | none => decide
      | some char => exact List.mem_of_getElem? char
  refine .of_silent (fun world => (draws world).mono fun _ _ _ _ => And.left)
    (fun world => (draws world).mono fun _ _ _ _ => And.left) ?_
  intro here there _ _ _
  rcases draws here with ⟨_, _, _, drawn⟩
  rcases draws there with ⟨_, _, _, alsoDrawn⟩
  exact ⟨drawn, alsoDrawn⟩

end Act.Agrees

/-! ## Starting runners in turn -/

namespace Launcher

/-- What is made of the outcome of a call to start a runner. -/
def announce (pool : Pool) (name : Text) : Except Fault Unit → Attempt Text
  | .error fault =>
    if fault.origin.isEngine then
      throw (.startFailed name fault.message)
    else
      throw (.outside fault)
  | .ok () => do
    note .info ("Started runner container " ++ name ++ " for pool " ++ pool.name)
    pure name

theorem start_eq (launcher : Launcher) (pool : Pool) (labels : List Text) (token : Text) :
    launcher.start pool labels token = (do
      let suffix ← drawSuffix Runner.suffixLength
      let name : Text := pool.name ++ "-" ++ suffix.map CodePoint.scalar
      announce pool name (← runContainer (launcher.spec pool labels token name))) :=
  rfl

theorem announce_traced (pool : Pool) (name : Text) (outcome : Except Fault Unit) :
    Act.Traced (announce pool name outcome).run := by
  have course := World.leads_isCourse
  cases outcome with
  | error fault =>
    rw [announce]
    split
    · exact Act.Keeps.attempt_throw course _
    · exact Act.Keeps.attempt_throw course _
  | ok done =>
    refine Act.Keeps.attempt_bind course (Act.Keeps.attempt_lift course ?_) fun _ => ?_
    · exact Act.Traced.noteAll _
    · exact Act.Keeps.attempt_pure course name

/-- Starts of runners agree up to the names of the runners. -/
theorem start_agrees (launcher : Launcher) (pool : Pool) (labels : List Text) (token : Text) :
    Act.Agrees pool
      (Outcomes (Failure.Alike pool) fun name other =>
        Runner.Names pool name ∧ Runner.Names pool other)
      (launcher.start pool labels token).run (launcher.start pool labels token).run := by
  have course := World.leads_isCourse
  have traced (name : Text) :
      Act.Traced
        (do
          announce pool name (← runContainer (launcher.spec pool labels token name)) :
          Attempt Text).run := by
    refine Act.Keeps.attempt_bind course (Act.Keeps.attempt_lift course ?_) ?_
    · exact Act.Traced.of_does fun world => runContainer_does world _
    · exact announce_traced pool name
  rw [start_eq]
  refine (Act.Agrees.drawSuffix Runner.suffixLength).attempt_lift_bind
    (fun suffix => traced _) (fun suffix => traced _) ?_
  rintro suffix other ⟨⟨size, among⟩, alsoSize, alsoAmong⟩
  have named : Runner.Names pool (pool.name ++ "-" ++ suffix.map CodePoint.scalar) :=
    ⟨suffix, size, among, rfl⟩
  have alsoNamed : Runner.Names pool (pool.name ++ "-" ++ other.map CodePoint.scalar) :=
    ⟨other, alsoSize, alsoAmong, rfl⟩
  refine (Act.Agrees.runContainer named alsoNamed).attempt_lift_bind
    (announce_traced pool _) (announce_traced pool _) ?_
  intro outcome result alike
  cases alike with
  | failed alike =>
    rw [announce, announce, alike.origin]
    split
    · refine .pure (.failed ⟨rfl, ?_⟩)
      exact ((Text.Alike.same _).append (.names named alsoNamed)).append (.same _)
        |>.append alike.message
    · exact .pure (.failed ⟨rfl, alike.message⟩)
  | answered alike =>
    exact (Act.Agrees.noteAll _ _).attempt_lift_bind
      (fun _ => Act.Keeps.attempt_pure course _) (fun _ => Act.Keeps.attempt_pure course _)
      fun _ _ _ => .pure (.answered ⟨named, alsoNamed⟩)

end Launcher

/-- Starts for the same candidate, complete at the same time. -/
structure Start.Alike (first second : Start) : Prop where
  candidate : second.candidate = first.candidate
  time : second.time = first.time

/-- The same way to end the starting of runners, reported up to the names of runners. -/
inductive StartsEnd.Alike (pool : Pool) : StartsEnd → StartsEnd → Prop where
  | fault
      {first second : StartFault}
      (message : Text.Alike pool first.message second.message) :
      Alike pool (.fault first) (.fault second)
  | failure
      {first second : Failure}
      (message : Text.Alike pool first.message second.message) :
      Alike pool (.failure first) (.failure second)

structure Starts.Alike (pool : Pool) (first second : Starts) : Prop where
  made : List.Forall₂ Start.Alike first.made second.made
  ended : Option.Rel (StartsEnd.Alike pool) first.ended second.ended

namespace Starts.Alike

protected theorem refl (starts : Starts) : Starts.Alike pool starts starts where
  made := List.forall₂_same.mpr fun _ _ => ⟨rfl, rfl⟩
  ended := by
    cases starts.ended with
    | none => exact .none
    | some ending =>
      cases ending with
      | fault fault => exact .some (.fault (.same _))
      | failure failure => exact .some (.failure (.same _))

/-- Starts that are alike are entered alike, and are for the same candidates. -/
theorem enterStarts
    {first second : Starts}
    (alike : Starts.Alike pool first second)
    (ledger : Ledger) :
    ledger.enterStarts second.made = ledger.enterStarts first.made := by
  have made := alike.made
  generalize first.made = starts at made ⊢
  generalize second.made = others at made ⊢
  induction made generalizing ledger with
  | nil => rfl
  | cons same _ ih =>
    rw [Ledger.enterStarts_cons, Ledger.enterStarts_cons, same.candidate, same.time, ih]

theorem candidates
    {first second : Starts}
    (alike : Starts.Alike pool first second) :
    second.made.map (·.candidate) = first.made.map (·.candidate) := by
  have made := alike.made
  generalize first.made = starts at made ⊢
  generalize second.made = others at made ⊢
  induction made with
  | nil => rfl
  | cons same _ ih => rw [List.map_cons, List.map_cons, same.candidate, ih]

end Starts.Alike

namespace Provisioner

variable (provisioner : Provisioner) (pool : Pool)

theorem startsEnd_alike
    (candidate : Candidate)
    {failure other : Failure}
    (alike : Failure.Alike pool failure other) :
    StartsEnd.Alike pool (startsEnd pool candidate failure) (startsEnd pool candidate other) := by
  rw [startsEnd, startsEnd, alike.ofEngine]
  split
  · exact .fault ((Text.Alike.same _).append alike.message)
  · exact .failure alike.message

/-- What is done after the attempt to start a runner for a candidate. -/
def goOn
    (token : Text)
    (labels : List Text)
    (candidate : Candidate)
    (rest : List Candidate) : Except Failure Text → Act Starts
  | .error failure => return .nil (some (startsEnd pool candidate failure))
  | .ok runner => do
    let start : Start := ⟨candidate, runner, ← now⟩
    note .info
      ("Pool " ++ pool.name ++ ": started " ++ runner ++ " for job "
        ++ candidate.job.id.plain ++ " (" ++ candidate.verdict.word ++ ")")
    let starts ← provisioner.startEach pool token labels rest
    return starts.cons start

theorem startEach_cons
    (token : Text)
    (labels : List Text)
    (candidate : Candidate)
    (rest : List Candidate) :
    provisioner.startEach pool token labels (candidate :: rest) = (do
      if ← isStopped then
        return .nil (some (.failure (.cancelledStarting pool.name)))
      provisioner.goOn pool token labels candidate rest
        (← (provisioner.launcher.start pool labels token).run)) :=
  rfl

theorem startEach_traced (token : Text) (labels : List Text) (candidates : List Candidate) :
    Act.Traced (provisioner.startEach pool token labels candidates) :=
  .of_does fun world => provisioner.startEach_does pool token labels candidates world

theorem goOn_traced
    (token : Text)
    (labels : List Text)
    (candidate : Candidate)
    (rest : List Candidate)
    (outcome : Except Failure Text) :
    Act.Traced (provisioner.goOn pool token labels candidate rest outcome) := by
  have course := World.leads_isCourse
  cases outcome with
  | error failure => exact Act.Keeps.pure course _
  | ok runner =>
    refine Act.Keeps.bind course course.refl fun time => ?_
    refine Act.Keeps.bind course (Act.Traced.noteAll _) fun done => ?_
    refine Act.Keeps.bind course (provisioner.startEach_traced pool token labels rest) ?_
    intro starts
    exact Act.Keeps.pure course _

/-- The starting of runners one after another agrees with itself up to their names. -/
theorem startEach_agrees (token : Text) (labels : List Text) (candidates : List Candidate) :
    Act.Agrees pool (Starts.Alike pool)
      (provisioner.startEach pool token labels candidates)
      (provisioner.startEach pool token labels candidates) := by
  induction candidates with
  | nil => exact .pure (.refl _)
  | cons candidate rest ih =>
    rw [startEach_cons]
    refine Act.Agrees.bind_same Act.Steady.isStopped fun stopped => ?_
    cases stopped with
    | true => exact .pure (.refl _)
    | false =>
      refine (provisioner.launcher.start_agrees pool labels token).bind
        (provisioner.goOn_traced pool token labels candidate rest)
        (provisioner.goOn_traced pool token labels candidate rest) ?_
      intro outcome result alike
      cases alike with
      | failed alike => exact .pure ⟨.nil, .some (startsEnd_alike pool candidate alike)⟩
      | answered named =>
        refine Act.Agrees.bind_same Act.Steady.now fun time => ?_
        refine Act.Agrees.bind_same (Act.Agrees.noteAll _ _) fun done => ?_
        refine ih.bind (fun _ => Act.Keeps.pure World.leads_isCourse _)
          (fun _ => Act.Keeps.pure World.leads_isCourse _) ?_
        intro starts others alike
        exact .pure ⟨.cons ⟨rfl, rfl⟩ alike.made, alike.ended⟩

/-- The starting of runners with a credential, if there is one. -/
def startWith
    (labels : List Text)
    (candidates : List Candidate) : Except Failure (Option Text) → Act Starts
  | .error failure => return .nil (some (.failure failure))
  | .ok none => return .nil (some (.fault (.noToken pool.name pool.registrationVariable)))
  | .ok (some token) =>
    if token.isEmpty then
      return .nil (some (.fault (.noToken pool.name pool.registrationVariable)))
    else
      provisioner.startEach pool token labels candidates

theorem startAll_eq (labels : List Text) (candidates : List Candidate) :
    provisioner.startAll pool labels candidates = (do
      if candidates.isEmpty then
        return .nil none
      provisioner.startWith pool labels candidates
        (pool.registrationToken (← get).environment)) := by
  rw [startAll]
  split
  · rfl
  · refine bind_congr fun world => ?_
    cases pool.registrationToken world.environment with
    | error failure => rfl
    | ok token =>
      cases token with
      | none => rfl
      | some token => rfl

theorem startWith_agrees
    (labels : List Text)
    (candidates : List Candidate)
    (token? : Except Failure (Option Text)) :
    Act.Agrees pool (Starts.Alike pool) (provisioner.startWith pool labels candidates token?)
      (provisioner.startWith pool labels candidates token?) := by
  match token? with
  | .error failure => exact .pure (.refl _)
  | .ok none => exact .pure (.refl _)
  | .ok (some token) =>
    rw [startWith]
    split
    · exact .pure (.refl _)
    · exact provisioner.startEach_agrees pool token labels candidates

theorem startAll_agrees (labels : List Text) (candidates : List Candidate) :
    Act.Agrees pool (Starts.Alike pool) (provisioner.startAll pool labels candidates)
      (provisioner.startAll pool labels candidates) := by
  rw [startAll_eq]
  split
  · exact .pure (.refl _)
  · have gets :
        Act.Agrees pool (fun here there : World => there.environment = here.environment) get
          get :=
      .of_silent (fun _ => Act.Does.get ⟨rfl, rfl⟩) (fun _ => Act.Does.get ⟨rfl, rfl⟩)
        fun _ _ abreast _ _ => abreast.environment
    have traced (world : World) :=
      (provisioner.startWith_agrees pool labels candidates
        (pool.registrationToken world.environment)).traced
    refine gets.bind traced traced fun here there same => ?_
    rw [same]
    exact provisioner.startWith_agrees pool labels candidates _

end Provisioner

/-! ## Passes -/

/-- The same way to end a pass: the same figures, and a report that is the same up to the
names of runners. -/
inductive PassEnd.Alike (pool : Pool) : PassEnd → PassEnd → Prop where
  | finished
      {first second : Decision}
      (summary : second.summary = first.summary) :
      Alike pool (.finished first) (.finished second)
  | startFailed
      {fault other : StartFault}
      {first second : Decision}
      (message : Text.Alike pool fault.message other.message)
      (summary : second.summary = first.summary) :
      Alike pool (.startFailed fault first) (.startFailed other second)
  | failed
      {failure other : Failure}
      (message : Text.Alike pool failure.message other.message) :
      Alike pool (.failed failure) (.failed other)

theorem noteDeparted_steady (departed : List Entry) : Act.Steady pool (noteDeparted departed) := by
  rw [noteDeparted]
  split
  · exact .pure rfl
  · exact .noteAll _ _

namespace Provisioner

variable (provisioner : Provisioner) (pool : Pool)

/-- What is done after the starting of runners. -/
def conclude
    (active : Int)
    (prospect : Prospect)
    (starts : Starts) : Act (PassEnd × Ledger) := do
  let entered := provisioner.ledger.enterStarts starts.made
  let departed := entered.departed (jobKeys prospect.jobs)
  noteDeparted departed
  let ledger := entered.retain (jobKeys prospect.jobs)
  let decision : Decision :=
    { active
      slots := freeSlots pool active
      labels := provisioner.offered pool
      queued := prospect.jobs
      candidates := prospect.candidates
      starts := starts.made
      evicted := departed.length }
  match starts.ended with
  | some (.fault fault) => return (.startFailed fault decision, ledger)
  | some (.failure failure) => return (.failed failure, ledger)
  | none =>
    if Number.isWritable (freeSlots pool active) then
      note .info
        ("Pool " ++ pool.name ++ ": queued=" ++ toString prospect.jobs.length
          ++ ", candidates=" ++ toString prospect.candidates.length ++ ", slots="
          ++ toString (freeSlots pool active) ++ ", spawned="
          ++ toString starts.made.length)
      return (.finished decision, ledger)
    else
      return (.failed .tooManyDigits, ledger)

theorem provide_eq (active : Int) (prospect : Prospect) :
    provisioner.provide pool active prospect = (do
      provisioner.conclude pool active prospect
        (← provisioner.startAll pool (provisioner.offered pool)
          (prospect.candidates.take (freeSlots pool active)))) :=
  rfl

theorem conclude_agrees
    (active : Int)
    (prospect : Prospect)
    {starts others : Starts}
    (alike : Starts.Alike pool starts others) :
    Act.Agrees pool
      (fun result other => PassEnd.Alike pool result.1 other.1 ∧ other.2 = result.2)
      (provisioner.conclude pool active prospect starts)
      (provisioner.conclude pool active prospect others) := by
  rw [conclude, conclude, alike.enterStarts]
  refine (noteDeparted_steady _).bind_same fun done => ?_
  have candidates := alike.candidates
  have count : others.made.length = starts.made.length := by
    simpa using congrArg List.length candidates
  have jobs := congrArg (List.map Candidate.job) candidates
  rw [List.map_map, List.map_map] at jobs
  have summary (labels : List Text) (evicted : Nat) :
      Decision.summary
          ⟨active, freeSlots pool active, labels, prospect.jobs, prospect.candidates,
            others.made, evicted⟩ =
        Decision.summary
          ⟨active, freeSlots pool active, labels, prospect.jobs, prospect.candidates,
            starts.made, evicted⟩ := by
    simp only [Decision.summary, Decision.startedJobs, count]
    exact congrArg (fun jobs : List Job => Summary.mk _ _ _ _ _ (jobs.map (·.id))) jobs
  have ended := alike.ended
  generalize starts.ended = ending? at ended ⊢
  generalize others.ended = other? at ended ⊢
  cases ended with
  | none =>
    dsimp only
    split
    · exact Act.Agrees.bind_same (Act.Agrees.noteAll _ _) fun _ =>
        .pure ⟨.finished (summary _ _), rfl⟩
    · exact .pure ⟨.failed (.same _), rfl⟩
  | some alike =>
    cases alike with
    | fault message => exact .pure ⟨.startFailed message (summary _ _), rfl⟩
    | failure message => exact .pure ⟨.failed message, rfl⟩

theorem conclude_traced (active : Int) (prospect : Prospect) (starts : Starts) :
    Act.Traced (provisioner.conclude pool active prospect starts) :=
  (provisioner.conclude_agrees pool active prospect (.refl starts)).traced

theorem provide_agrees (active : Int) (prospect : Prospect) :
    Act.Agrees pool
      (fun result other => PassEnd.Alike pool result.1 other.1 ∧ other.2 = result.2)
      (provisioner.provide pool active prospect) (provisioner.provide pool active prospect) := by
  rw [provide_eq]
  exact (provisioner.startAll_agrees pool _ _).bind
    (provisioner.conclude_traced pool active prospect)
    (provisioner.conclude_traced pool active prospect) fun _ _ alike =>
      provisioner.conclude_agrees pool active prospect alike

/-- A pass agrees with itself: it ends alike and leaves the same ledger. -/
theorem pass_agrees (active : Int) :
    Act.Agrees pool
      (fun result other => PassEnd.Alike pool result.1 other.1 ∧ other.2 = result.2)
      (provisioner.pass pool active) (provisioner.pass pool active) := by
  rw [pass]
  split
  · split
    · exact Act.Agrees.bind_same (Act.Agrees.noteAll _ _) fun _ => .pure ⟨.finished rfl, rfl⟩
    · exact .pure ⟨.failed (.same _), rfl⟩
  · refine Act.Agrees.bind_same (Act.Steady.prospect provisioner pool) fun outcome => ?_
    cases outcome with
    | error failure => exact .pure ⟨.failed (.same _), rfl⟩
    | ok prospect => exact provisioner.provide_agrees pool active prospect

end Provisioner

end RunnerFleet
