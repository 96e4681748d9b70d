import RunnerFleet.Proofs.Moments

/-!
# Reasoning about work

Two ways to say what an act does, each with a rule for every way in which acts are
put together.

`Act.Does` is about one start: from a world, an act makes a trace of calls and
ends with an answer and a world that satisfy a condition.  The calls on the
outside are described by it once, and all larger acts from their parts.

`Act.Keeps` is about every start: a relation that nothing breaks as long as no
step breaks it holds between the world before an act and the one after it.
-/

namespace RunnerFleet

variable {Answer Result : Type}

namespace Act

/-! ## What an act does from a world -/

/-- From a world, an act makes a trace of calls such that the condition holds of its
answer, the trace, and the world it leaves. -/
def Does
    (act : Act Answer)
    (world : World)
    (condition : Answer → List Call → World → Prop) : Prop :=
  ∃ calls,
    world.Follows calls (act.run world).2 ∧
      condition (act.run world).1 calls (act.run world).2

variable {world : World} {condition : Answer → List Call → World → Prop}

theorem Does.mono
    {act : Act Answer}
    {weaker : Answer → List Call → World → Prop}
    (does : act.Does world condition)
    (implied : ∀ answer calls after,
      world.Follows calls after → condition answer calls after → weaker answer calls after) :
    act.Does world weaker := by
  rcases does with ⟨calls, follows, holds⟩
  exact ⟨calls, follows, implied _ _ _ follows holds⟩

/-- What holds of an act for two reasons holds for both. -/
theorem Does.and
    {act : Act Answer}
    {other : Answer → List Call → World → Prop}
    (does : act.Does world condition)
    (also : act.Does world other) :
    act.Does world fun answer calls after =>
      condition answer calls after ∧ other answer calls after := by
  rcases does with ⟨calls, follows, holds⟩
  rcases also with ⟨_, alsoFollows, alsoHolds⟩
  rw [← alsoFollows.callsSince, follows.callsSince] at alsoHolds
  exact ⟨calls, follows, holds, alsoHolds⟩

/-- The answer of an act is that of its run. -/
theorem Does.ran
    {act : Act Answer}
    (does : act.Does world condition) :
    act.Does world fun answer calls after =>
      condition answer calls after ∧ answer = (act.run world).1 := by
  rcases does with ⟨calls, follows, holds⟩
  exact ⟨calls, follows, holds, rfl⟩

theorem Does.pure
    {answer : Answer}
    (holds : condition answer [] world) :
    Act.Does (pure answer) world condition :=
  ⟨[], .refl world, holds⟩

/-- Two acts in a row make their traces in a row. -/
theorem Does.bind
    {act : Act Answer}
    {next : Answer → Act Result}
    {condition : Result → List Call → World → Prop}
    (does : act.Does world fun answer first between =>
      (next answer).Does between fun result second after =>
        condition result (first ++ second) after) :
    Act.Does (act >>= next) world condition := by
  rcases does with ⟨first, firstFollows, second, secondFollows, holds⟩
  exact ⟨first ++ second, firstFollows.trans secondFollows, holds⟩

/-- Two acts in a row run in the worlds that they leave one another. -/
theorem run_bind (act : Act Answer) (next : Answer → Act Result) (world : World) :
    (act >>= next).run world = (next (act.run world).1).run (act.run world).2 :=
  rfl

/-! ## Attempts -/

theorem Does.attempt_bind
    {attempt : Attempt Answer}
    {next : Answer → Attempt Result}
    {condition : Except Failure Result → List Call → World → Prop}
    (does : Act.Does attempt.run world fun outcome first between =>
      match outcome with
      | .error failure => condition (.error failure) first between
      | .ok answer =>
        Act.Does (next answer).run between fun result second after =>
          condition result (first ++ second) after) :
    Act.Does (attempt >>= next).run world condition := by
  rw [ExceptT.run_bind]
  refine Does.bind (does.mono ?_)
  intro outcome first between follows holds
  cases outcome with
  | error failure => exact Does.pure (by simpa using holds)
  | ok answer => exact holds

theorem Does.attempt_lift
    {act : Act Answer}
    {condition : Except Failure Answer → List Call → World → Prop}
    (does : act.Does world fun answer calls after => condition (.ok answer) calls after) :
    Act.Does (liftM act : Attempt Answer).run world condition := by
  rcases does with ⟨calls, follows, holds⟩
  exact ⟨calls, follows, holds⟩

theorem Does.attempt_liftExcept
    {outcome : Except Failure Answer}
    {condition : Except Failure Answer → List Call → World → Prop}
    (holds : condition outcome [] world) :
    Act.Does (liftExcept outcome : Attempt Answer).run world condition := by
  cases outcome with
  | error failure => exact Does.pure holds
  | ok answer => exact Does.pure holds

/-! ## What is passed on from parts -/

/-- A property that acts have if the parts of which they are put together have it. -/
structure PassedOn (holds : {Answer : Type} → Act Answer → Prop) : Prop where
  returns {Answer : Type} (answer : Answer) : holds (pure answer : Act Answer)
  composes {Answer Result : Type} {act : Act Answer} {next : Answer → Act Result} :
    holds act → (∀ answer, holds (next answer)) → holds (act >>= next)

namespace PassedOn

variable {holds : {Answer : Type} → Act Answer → Prop} (passed : PassedOn @holds)

include passed

theorem attempt_pure (answer : Answer) : holds (pure answer : Attempt Answer).run :=
  passed.returns _

theorem attempt_throw (failure : Failure) : holds (throw failure : Attempt Answer).run :=
  passed.returns _

theorem attempt_bind
    {attempt : Attempt Answer}
    {next : Answer → Attempt Result}
    (first : holds attempt.run)
    (second : ∀ answer, holds (next answer).run) :
    holds (attempt >>= next).run := by
  rw [ExceptT.run_bind]
  apply passed.composes first
  intro outcome
  cases outcome with
  | error failure => exact passed.returns _
  | ok answer => exact second answer

theorem attempt_lift {act : Act Answer} (own : holds act) :
    holds (liftM act : Attempt Answer).run :=
  passed.composes own fun _ => passed.returns _

theorem attempt_liftExcept (outcome : Except Failure Answer) :
    holds (liftExcept outcome : Attempt Answer).run := by
  cases outcome with
  | error failure => exact passed.attempt_throw failure
  | ok answer => exact passed.attempt_pure answer

end PassedOn

/-! ## What acts keep -/

/-- An act leaves a world that is related to the one it started from. -/
def Keeps (relation : World → World → Prop) (act : Act Answer) : Prop :=
  ∀ world, relation world (act.run world).2

/-- A relation between worlds that nothing breaks unless a step breaks it. -/
structure IsCourse (relation : World → World → Prop) : Prop where
  refl (world : World) : relation world world
  trans {before between after : World} :
    relation before between → relation between after → relation before after

namespace Keeps

variable {relation : World → World → Prop}

protected theorem pure (course : IsCourse relation) (answer : Answer) :
    Keeps relation (pure answer : Act Answer) :=
  course.refl

protected theorem bind
    {act : Act Answer}
    {next : Answer → Act Result}
    (course : IsCourse relation)
    (first : Keeps relation act)
    (second : ∀ answer, Keeps relation (next answer)) :
    Keeps relation (act >>= next) := by
  intro world
  exact course.trans (first world) (second _ _)

/-- What an act keeps is passed on from its parts. -/
theorem passedOn (course : IsCourse relation) : PassedOn fun act => Keeps relation act where
  returns := Keeps.pure course
  composes := Keeps.bind course

theorem attempt_pure (course : IsCourse relation) (answer : Answer) :
    Keeps relation (pure answer : Attempt Answer).run :=
  course.refl

theorem attempt_throw (course : IsCourse relation) (failure : Failure) :
    Keeps relation (throw failure : Attempt Answer).run :=
  course.refl

theorem attempt_bind
    {attempt : Attempt Answer}
    {next : Answer → Attempt Result}
    (course : IsCourse relation)
    (first : Keeps relation attempt.run)
    (second : ∀ answer, Keeps relation (next answer).run) :
    Keeps relation (attempt >>= next).run :=
  (passedOn course).attempt_bind first second

theorem attempt_lift
    {act : Act Answer}
    (course : IsCourse relation)
    (keeps : Keeps relation act) :
    Keeps relation (liftM act : Attempt Answer).run :=
  (passedOn course).attempt_lift keeps

end Keeps

end Act

/-! ## Acts on the world -/

namespace Act.Does

variable {world : World}

theorem get
    {condition : World → List Call → World → Prop}
    (holds : condition world [] world) :
    Act.Does get world condition :=
  ⟨[], .refl world, holds⟩

theorem set
    {after : World}
    {calls : List Call}
    {condition : PUnit → List Call → World → Prop}
    (follows : world.Follows calls after)
    (holds : condition ⟨⟩ calls after) :
    Act.Does (set after) world condition :=
  ⟨calls, follows, holds⟩

theorem modify
    {change : World → World}
    {calls : List Call}
    {condition : PUnit → List Call → World → Prop}
    (follows : world.Follows calls (change world))
    (holds : condition ⟨⟩ calls (change world)) :
    Act.Does (modify change) world condition :=
  ⟨calls, follows, holds⟩

theorem noteAll
    {lines : List LogLine}
    {condition : Unit → List Call → World → Prop}
    (holds : condition () [] { world with log := world.log ++ lines }) :
    (noteAll lines).Does world condition :=
  Does.modify ⟨rfl, rfl, rfl⟩ holds

theorem isStopped
    {condition : Bool → List Call → World → Prop}
    (holds : condition world.stopped [] world) :
    Act.Does isStopped world condition :=
  ⟨[], .refl world, holds⟩

theorem now
    {condition : Float → List Call → World → Prop}
    (holds : condition world.clock [] world) :
    Act.Does now world condition :=
  ⟨[], .refl world, holds⟩

theorem limits
    {condition : Limits → List Call → World → Prop}
    (holds : condition world.outside.limits [] world) :
    Act.Does limits world condition :=
  ⟨[], .refl world, holds⟩

end Act.Does

theorem run_isStopped (world : World) :
    isStopped.run world = (world.stopped, world) :=
  rfl

theorem run_now (world : World) :
    now.run world = (world.clock, world) :=
  rfl

/-! ## Calls on the outside -/

variable (world : World)

theorem ask_does (request : Request) :
    (ask request).Does world fun reply calls after =>
      calls = [.ask request] ∧
        reply = world.outside.replyAt world.moment request ∧
          after.choices = world.choices := by
  refine Act.Does.bind (Act.Does.get ?_)
  dsimp only
  split
  next exhausted =>
    have exhausted : world.requestsLeft = 0 := exhausted
    refine Act.Does.bind (Act.Does.set (world.follows_ask_of_exhausted exhausted) ?_)
    refine Act.Does.pure ⟨rfl, ?_, rfl⟩
    simp [Outside.replyAt, World.moment, exhausted]
  next left served =>
    have served : world.requestsLeft = left + 1 := served
    refine Act.Does.bind (Act.Does.set (world.follows_ask served) ?_)
    refine Act.Does.pure ⟨rfl, ?_, rfl⟩
    simp [Outside.replyAt, World.moment, served]

/-- Reaching the engine is no call, and nothing is drawn for it. -/
theorem connect_does :
    connect.Does world fun _ calls after => calls = [] ∧ after.choices = world.choices := by
  refine Act.Does.bind (Act.Does.get ?_)
  split
  · exact Act.Does.pure ⟨rfl, rfl⟩
  · split
    · exact Act.Does.pure ⟨rfl, rfl⟩
    · have reached : world.Follows [] { world with connected := true } := ⟨rfl, rfl, rfl⟩
      exact Act.Does.bind (Act.Does.set reached (Act.Does.pure ⟨rfl, rfl⟩))

theorem listContainers_does (pool : Text) :
    (listContainers pool).Does world fun outcome calls after =>
      (calls = [] ∧ outcome.isOk = false) ∨
        calls = [.list pool] ∧
          ∀ states, outcome = .ok states →
            states = (after.containers.filter (·.pool == pool)).map (·.state) := by
  apply Act.Does.bind
  apply (connect_does world).mono
  rintro refused _ reached _ ⟨rfl, _⟩
  cases refused with
  | some fault => exact Act.Does.pure (.inl ⟨rfl, rfl⟩)
  | none =>
    have listed := reached.follows_list pool
    refine Act.Does.bind (Act.Does.get (Act.Does.bind (Act.Does.set listed ?_)))
    split
    · exact Act.Does.pure (.inr ⟨rfl, nofun⟩)
    · exact Act.Does.pure (.inr ⟨rfl, fun states equal => (Except.ok.inj equal).symm⟩)

theorem runContainer_does (runner : RunnerSpec) :
    (runContainer runner).Does world fun outcome calls after =>
      after.choices = world.choices ∧
        ((calls = [] ∧ outcome.isOk = false) ∨
          calls = [.run runner] ∧
            world.outside.startsAt (world.history ++ [.run runner]) = outcome.isOk) := by
  apply Act.Does.bind
  apply (connect_does world).mono
  rintro refused _ reached follows ⟨rfl, same⟩
  cases refused with
  | some fault => exact Act.Does.pure ⟨same, .inl ⟨rfl, rfl⟩⟩
  | none =>
    have sameHistory : reached.history = world.history := by
      simpa using follows.history
    rw [← follows.outside, ← sameHistory]
    refine Act.Does.bind (Act.Does.get ?_)
    dsimp only
    split
    next fault failed =>
      have fails : reached.outside.startsAt (reached.history ++ [.run runner]) = false :=
        congrArg Option.isNone failed
      refine Act.Does.bind (Act.Does.set (reached.follows_run_of_fault fails) ?_)
      exact Act.Does.pure ⟨same, .inr ⟨rfl, fails⟩⟩
    next succeeded =>
      have starts : reached.outside.startsAt (reached.history ++ [.run runner]) = true :=
        congrArg Option.isNone succeeded
      refine Act.Does.bind (Act.Does.set (reached.follows_run_of_start starts) ?_)
      exact Act.Does.pure ⟨same, .inr ⟨rfl, starts⟩⟩

/-- A wait that does not fail brings the stop signal or uses up one of the waits that
the world has left. -/
theorem wait_does (seconds : Int) :
    Act.Does (wait seconds).run world fun outcome calls after =>
      calls = [.wait seconds] ∧
        (outcome.isOk = true →
          after.stopped = true ∨ after.waitsLeft < world.waitsLeft) := by
  refine Act.Does.attempt_bind (Act.Does.attempt_lift (Act.Does.get ?_))
  dsimp only
  split
  next refused =>
    exact Act.Does.attempt_bind (Act.Does.attempt_lift
      (Act.Does.set (world.follows_wait_of_refused refused) (Act.Does.pure ⟨rfl, nofun⟩)))
  next taken =>
    have taken : world.outside.refusesWait world.stopped seconds = false := by simpa using taken
    refine Act.Does.attempt_lift (Act.Does.set (world.follows_wait taken) ⟨rfl, ?_⟩)
    intro _
    by_cases none : world.waitsLeft = 0
    · have last : (world.call (.wait seconds)).waitsLeft = 0 := none
      exact .inl (by simp [last])
    · exact .inr (Nat.sub_lt (Nat.pos_of_ne_zero none) Nat.one_pos)

end RunnerFleet
