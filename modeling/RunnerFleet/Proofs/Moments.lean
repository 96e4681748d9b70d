import RunnerFleet.Outside

/-!
# Moments between calls

What calls change of a world is replayed here from the calls alone: an outside
and a moment determine the moment after every further call, and so after a whole
trace of calls.  A world follows another one by a trace if it is what replaying
the trace leaves, up to what no call touches: the log, the files, the choices
drawn so far, and the connection to the engine.

A statement about every moment of a run is then a statement about the prefixes of
its trace, and the condition under which a call is made is read off the moment at
which it is made.
-/

namespace RunnerFleet

/-- Whether a call is one to start a container. -/
def Call.isRun : Call → Bool
  | .run _ => true
  | _ => false

/-! ## Moments -/

/-- What calls change of a world. -/
structure Moment where
  history : List Call
  clock : Float
  containers : List Container
  stopped : Bool
  requestsLeft : Nat
  waitsLeft : Nat

/-- The moment at which a world is. -/
def World.moment (world : World) : Moment where
  history := world.history
  clock := world.clock
  containers := world.containers
  stopped := world.stopped
  requestsLeft := world.requestsLeft
  waitsLeft := world.waitsLeft

namespace Outside

/-- The moment after a call, as far as all calls have the same effects. -/
def lapse (outside : Outside) (moment : Moment) (made : Call) : Moment :=
  let history := moment.history ++ [made]
  { moment with
    history
    clock := outside.clockAfter history moment.clock
    containers := outside.settle history moment.containers
    stopped := moment.stopped || outside.interrupts history }

/-- Whether the call that ends a history, if it is one to start a container,
starts it. -/
def startsAt (outside : Outside) (history : List Call) : Bool :=
  (outside.runFault history).isNone

/-- The reply to a request that is made at a moment. -/
def replyAt (outside : Outside) (moment : Moment) (request : Request) : Reply :=
  match moment.requestsLeft with
  | 0 => .fault requestLimitReached
  | _ + 1 => outside.serve (moment.history ++ [.ask request]) request

/-- The moment after a call. -/
def step (outside : Outside) (moment : Moment) (made : Call) : Moment :=
  let lapsed := outside.lapse moment made
  match made with
  | .ask _ => { lapsed with requestsLeft := moment.requestsLeft - 1 }
  | .list _ => lapsed
  | .run runner =>
    if outside.startsAt lapsed.history then
      { lapsed with containers := lapsed.containers ++ [⟨runner.pool, "running"⟩] }
    else
      lapsed
  | .wait seconds =>
    if outside.refusesWait moment.stopped seconds then
      { moment with history := lapsed.history }
    else
      let left := moment.waitsLeft - 1
      { lapsed with waitsLeft := left, stopped := lapsed.stopped || left == 0 }

/-- The moment after a trace of calls. -/
def replay (outside : Outside) (moment : Moment) (calls : List Call) : Moment :=
  calls.foldl outside.step moment

variable (outside : Outside) (moment : Moment)

@[simp]
theorem replay_nil : outside.replay moment [] = moment :=
  rfl

@[simp]
theorem replay_cons (made : Call) (rest : List Call) :
    outside.replay moment (made :: rest) =
      outside.replay (outside.step moment made) rest :=
  rfl

@[simp]
theorem replay_append (first second : List Call) :
    outside.replay moment (first ++ second) =
      outside.replay (outside.replay moment first) second := by
  simp [replay]

@[simp]
theorem history_step (made : Call) :
    (outside.step moment made).history = moment.history ++ [made] := by
  cases made with
  | ask request => rfl
  | list pool => rfl
  | run runner =>
    simp only [step]
    split <;> rfl
  | wait seconds =>
    simp only [step]
    split <;> rfl

@[simp]
theorem history_replay (calls : List Call) :
    (outside.replay moment calls).history = moment.history ++ calls := by
  induction calls generalizing moment with
  | nil => simp
  | cons made rest ih => simp [ih]

/-- A stop signal that has arrived stays. -/
theorem stopped_step
    {moment : Moment}
    (made : Call)
    (stopped : moment.stopped = true) :
    (outside.step moment made).stopped = true := by
  have lapsed : (outside.lapse moment made).stopped = true := by
    simp [lapse, stopped]
  cases made with
  | ask request => exact lapsed
  | list pool => exact lapsed
  | run runner =>
    simp only [step]
    split <;> exact lapsed
  | wait seconds =>
    simp only [step]
    split
    · exact stopped
    · simp [lapsed]

/-- A stop signal that has arrived stays during a whole trace. -/
theorem stopped_replay
    {moment : Moment}
    (calls : List Call)
    (stopped : moment.stopped = true) :
    (outside.replay moment calls).stopped = true := by
  induction calls generalizing moment with
  | nil => exact stopped
  | cons made rest ih => exact ih (outside.stopped_step made stopped)

/-- The stop signal had not arrived before a trace if it has not arrived after it. -/
theorem working_of_replay
    {outside : Outside}
    {moment : Moment}
    {calls : List Call}
    (working : (outside.replay moment calls).stopped = false) :
    moment.stopped = false := by
  cases stopped : moment.stopped with
  | false => rfl
  | true =>
    rw [outside.stopped_replay calls stopped] at working
    cases working

/-- No call brings a wait back. -/
theorem waitsLeft_step_le (made : Call) :
    (outside.step moment made).waitsLeft ≤ moment.waitsLeft := by
  cases made with
  | ask request => exact Nat.le_refl _
  | list pool => exact Nat.le_refl _
  | run runner =>
    simp only [step]
    split <;> exact Nat.le_refl _
  | wait seconds =>
    simp only [step]
    split
    · exact Nat.le_refl _
    · exact Nat.sub_le _ _

theorem waitsLeft_replay_le (calls : List Call) :
    (outside.replay moment calls).waitsLeft ≤ moment.waitsLeft := by
  induction calls generalizing moment with
  | nil => exact Nat.le_refl _
  | cons made rest ih =>
    calc
      (outside.replay (outside.step moment made) rest).waitsLeft
          ≤ (outside.step moment made).waitsLeft := ih _
      _ ≤ moment.waitsLeft := outside.waitsLeft_step_le moment made

/-! ## Conditions on calls -/

/-- Every call of a trace is made at a moment that allows it. -/
def Allows (outside : Outside) (allowed : Moment → Call → Prop) :
    Moment → List Call → Prop
  | _, [] => True
  | moment, made :: rest =>
    allowed moment made ∧ Allows outside allowed (outside.step moment made) rest

variable {outside moment}

@[simp]
theorem allows_nil {allowed : Moment → Call → Prop} :
    outside.Allows allowed moment [] :=
  trivial

@[simp]
theorem allows_append {allowed : Moment → Call → Prop} {first second : List Call} :
    outside.Allows allowed moment (first ++ second) ↔
      outside.Allows allowed moment first ∧
        outside.Allows allowed (outside.replay moment first) second := by
  induction first generalizing moment with
  | nil => simp
  | cons made rest ih => simp [Allows, ih, and_assoc]

/-- What a condition allows, a weaker condition allows. -/
theorem Allows.mono
    {strong weak : Moment → Call → Prop}
    {calls : List Call}
    (weaker : ∀ moment made, strong moment made → weak moment made)
    (allows : outside.Allows strong moment calls) :
    outside.Allows weak moment calls := by
  induction calls generalizing moment with
  | nil => trivial
  | cons made rest ih => exact ⟨weaker _ _ allows.1, ih allows.2⟩

/-- A condition on calls alone holds of every call of a trace that it allows. -/
theorem Allows.forall_mem
    {allowed : Moment → Call → Prop}
    {property : Call → Prop}
    {calls : List Call}
    (allows : outside.Allows allowed moment calls)
    (implied : ∀ moment made, allowed moment made → property made) :
    ∀ made ∈ calls, property made := by
  induction calls generalizing moment with
  | nil =>
    intro made member
    cases member
  | cons first rest ih =>
    intro made member
    rcases List.mem_cons.mp member with rfl | later
    · exact implied _ _ allows.1
    · exact ih allows.2 made later

/-! ## Containers started along a trace -/

/-- The runner container that a call starts, if it does, with the time right after;
the moment is the one after the call. -/
def startedBy (outside : Outside) (next : Moment) : Call → List (RunnerSpec × Float)
  | .run runner => if outside.startsAt next.history then [(runner, next.clock)] else []
  | _ => []

/-- The runner containers that the calls of a trace start, each with the time right
after its start. -/
def started (outside : Outside) : Moment → List Call → List (RunnerSpec × Float)
  | _, [] => []
  | moment, made :: rest =>
    outside.startedBy (outside.step moment made) made
      ++ started outside (outside.step moment made) rest

@[simp]
theorem started_nil : outside.started moment [] = [] :=
  rfl

theorem started_append (first second : List Call) :
    outside.started moment (first ++ second) =
      outside.started moment first ++
        outside.started (outside.replay moment first) second := by
  induction first generalizing moment with
  | nil => rfl
  | cons made rest ih =>
    simp only [List.cons_append, started, ih, replay_cons, List.append_assoc]

/-- Calls of other kinds start no container. -/
theorem started_eq_nil
    {calls : List Call}
    (others : ∀ made ∈ calls, made.isRun = false) :
    outside.started moment calls = [] := by
  induction calls generalizing moment with
  | nil => rfl
  | cons made rest ih =>
    have first : outside.startedBy (outside.step moment made) made = [] := by
      cases made with
      | ask | list | wait => rfl
      | run runner => exact absurd (others _ List.mem_cons_self) (by simp [Call.isRun])
    have later : outside.started (outside.step moment made) rest = [] :=
      ih fun call member => others call (List.mem_cons_of_mem _ member)
    simp only [started, first, later, List.append_nil]

/-- Only calls to start a container start one, and each at most one. -/
theorem length_started_le (calls : List Call) :
    (outside.started moment calls).length ≤ calls.countP Call.isRun := by
  induction calls generalizing moment with
  | nil => exact Nat.le_refl _
  | cons made rest ih =>
    have first :
        (outside.startedBy (outside.step moment made) made).length ≤
          [made].countP Call.isRun := by
      cases made with
      | ask | list | wait => exact Nat.zero_le _
      | run runner =>
        simp only [startedBy]
        split <;> simp [Call.isRun]
    have later :
        (outside.started (outside.step moment made) rest).length ≤
          rest.countP Call.isRun := ih
    rw [started, List.length_append, ← List.singleton_append, List.countP_append]
    exact Nat.add_le_add first later

end Outside

/-! ## Worlds along a trace -/

/-- A world is what remains of an earlier one once the calls of a trace were
made. -/
structure World.Follows (before : World) (calls : List Call) (after : World) : Prop where
  outside : after.outside = before.outside
  environment : after.environment = before.environment
  moment : after.moment = before.outside.replay before.moment calls

namespace World.Follows

variable {before between after : World} {first second calls : List Call}

protected theorem refl (world : World) : world.Follows [] world :=
  ⟨rfl, rfl, rfl⟩

protected theorem trans
    (firstPart : before.Follows first between)
    (secondPart : between.Follows second after) :
    before.Follows (first ++ second) after where
  outside := secondPart.outside.trans firstPart.outside
  environment := secondPart.environment.trans firstPart.environment
  moment := by
    rw [secondPart.moment, firstPart.outside, firstPart.moment, Outside.replay_append]

theorem history (follows : before.Follows calls after) :
    after.history = before.history ++ calls := by
  have grown := congrArg Moment.history follows.moment
  simpa [World.moment] using grown

theorem stopped (follows : before.Follows calls after) :
    after.stopped = (before.outside.replay before.moment calls).stopped :=
  congrArg Moment.stopped follows.moment

theorem containers (follows : before.Follows calls after) :
    after.containers = (before.outside.replay before.moment calls).containers :=
  congrArg Moment.containers follows.moment

theorem clock (follows : before.Follows calls after) :
    after.clock = (before.outside.replay before.moment calls).clock :=
  congrArg Moment.clock follows.moment

theorem waitsLeft (follows : before.Follows calls after) :
    after.waitsLeft = (before.outside.replay before.moment calls).waitsLeft :=
  congrArg Moment.waitsLeft follows.moment

end World.Follows

/-! ## Worlds after one call -/

namespace World

variable (world : World)

theorem follows_ask
    {request : Request}
    {left : Nat}
    (served : world.requestsLeft = left + 1) :
    world.Follows [.ask request]
      { world.call (.ask request) with requestsLeft := left } where
  outside := rfl
  environment := rfl
  moment := by
    simp [Outside.step, Outside.lapse, World.moment, World.call, served]

theorem follows_ask_of_exhausted
    {request : Request}
    (exhausted : world.requestsLeft = 0) :
    world.Follows [.ask request] (world.call (.ask request)) where
  outside := rfl
  environment := rfl
  moment := by
    simp [Outside.step, Outside.lapse, World.moment, World.call, exhausted]

theorem follows_list (pool : Text) :
    world.Follows [.list pool] (world.call (.list pool)) :=
  ⟨rfl, rfl, rfl⟩

theorem follows_run_of_fault
    {runner : RunnerSpec}
    (fails : world.outside.startsAt (world.history ++ [.run runner]) = false) :
    world.Follows [.run runner] (world.call (.run runner)) where
  outside := rfl
  environment := rfl
  moment := by
    simp [Outside.step, Outside.lapse, World.moment, World.call, fails]

theorem follows_run_of_start
    {runner : RunnerSpec}
    (starts : world.outside.startsAt (world.history ++ [.run runner]) = true) :
    world.Follows [.run runner]
      { world.call (.run runner) with
        containers :=
          (world.call (.run runner)).containers ++ [⟨runner.pool, "running"⟩] } where
  outside := rfl
  environment := rfl
  moment := by
    simp [Outside.step, Outside.lapse, World.moment, World.call, starts]

theorem follows_wait
    {seconds : Int}
    (taken : world.outside.refusesWait world.stopped seconds = false) :
    world.Follows [.wait seconds]
      { world.call (.wait seconds) with
        waitsLeft := world.waitsLeft - 1
        stopped := (world.call (.wait seconds)).stopped || world.waitsLeft - 1 == 0 } where
  outside := rfl
  environment := rfl
  moment := by
    simp [Outside.step, Outside.lapse, World.moment, World.call, taken]

theorem follows_wait_of_refused
    {seconds : Int}
    (refused : world.outside.refusesWait world.stopped seconds = true) :
    world.Follows [.wait seconds]
      { world with history := world.history ++ [.wait seconds] } where
  outside := rfl
  environment := rfl
  moment := by
    simp [Outside.step, Outside.lapse, World.moment, refused]

end World

/-- The calls that a world's history has beyond an earlier world's. -/
def World.callsSince (after before : World) : List Call :=
  after.history.drop before.history.length

/-- The calls since an earlier world are the trace by which it is followed. -/
theorem World.Follows.callsSince
    {before after : World}
    {calls : List Call}
    (follows : before.Follows calls after) :
    after.callsSince before = calls := by
  simp [World.callsSince, follows.history]

end RunnerFleet
