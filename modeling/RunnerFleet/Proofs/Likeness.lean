import Mathlib.Data.List.Forall2
import RunnerFleet.Proofs.Starting

/-!
# Acting alike in two worlds

Two worlds may differ in much that an act never notices.  What it does notice of them is told
call by call: as long as the calls made so far were alike, alike calls come to the same.  An
act that agrees with another one then makes alike calls from worlds that are abreast, ends
with related answers, and leaves worlds that are abreast.

Calls are alike if they are the same up to the random part of the names of a pool's runners.
The rules for putting acts together say that agreement is passed on from the parts.
-/

namespace RunnerFleet

variable {Answer Result Other Further : Type} {pool : Pool}

/-! ## What may differ -/

/-- The name of a runner of a pool, whatever its random part. -/
def Runner.Names (pool : Pool) (name : Text) : Prop :=
  ∃ suffix : List Char,
    suffix.length = Runner.suffixLength ∧
      (∀ char ∈ suffix, char ∈ Runner.suffixAlphabet) ∧
        name = pool.name ++ "-" ++ suffix.map CodePoint.scalar

/-- Texts that are the same up to the names of a pool's runners that occur in them. -/
inductive Text.Alike (pool : Pool) : Text → Text → Prop where
  | same (text : Text) : Alike pool text text
  | names
      {first second : Text}
      (named : Runner.Names pool first)
      (alsoNamed : Runner.Names pool second) :
      Alike pool first second
  | append
      {first second further others : Text}
      (front : Alike pool first second)
      (back : Alike pool further others) :
      Alike pool (first ++ further) (second ++ others)

structure Fault.Alike (pool : Pool) (first second : Fault) : Prop where
  origin : second.origin = first.origin
  title : second.title = first.title
  message : Text.Alike pool first.message second.message

structure Failure.Alike (pool : Pool) (first second : Failure) : Prop where
  ofEngine : second.ofEngine = first.ofEngine
  message : Text.Alike pool first.message second.message

/-- Calls in a pool's pass that are the same up to the name of a runner. -/
inductive Call.Alike (pool : Pool) : Call → Call → Prop where
  | ask (request : Request) : Alike pool (.ask request) (.ask request)
  | list : Alike pool (.list pool.name) (.list pool.name)
  | run
      (launcher : Launcher)
      (labels : List Text)
      (token : Text)
      {first second : Text}
      (named : Runner.Names pool first)
      (alsoNamed : Runner.Names pool second) :
      Alike pool (.run (launcher.spec pool labels token first))
        (.run (launcher.spec pool labels token second))

/-! ## What is noticed -/

/-- The containers of a pool. -/
def ofPool (name : Text) (containers : List Container) : List Container :=
  containers.filter (·.pool == name)

/-- What becomes of a pool's containers by themselves has nothing to do with the other
containers. -/
def Outside.KeepsApart (outside : Outside) (name : Text) : Prop :=
  ∀ history containers,
    ofPool name (outside.settle history containers) =
      ofPool name (outside.settle history (ofPool name containers))

namespace Outside

/-- Two alike calls come to the same at two moments: the same reply, the same containers
listed, the same success, and the same time and containers of the pool right after. -/
structure Concurs
    (pool : Pool)
    (first second : Outside)
    (here there : Moment)
    (made mirrored : Call) : Prop where
  reply :
    ∀ request,
      made = .ask request →
        mirrored = .ask request → second.replyAt there request = first.replyAt here request
  listing :
    ∀ name,
      made = .list name →
        second.listFault (there.history ++ [mirrored]) =
          first.listFault (here.history ++ [made])
  start :
    made.isRun = true →
      Option.Rel (Fault.Alike pool) (first.runFault (here.history ++ [made]))
        (second.runFault (there.history ++ [mirrored]))
  settling :
    ∀ containers,
      ofPool pool.name
          (second.settle (there.history ++ [mirrored]) (ofPool pool.name containers)) =
        ofPool pool.name
          (first.settle (here.history ++ [made]) (ofPool pool.name containers))
  clock : (second.step there mirrored).clock = (first.step here made).clock

/-- As long as the calls of two traces are alike, they come to the same. -/
def ServeAlike (pool : Pool) (first second : Outside) :
    Moment → Moment → List Call → List Call → Prop
  | here, there, made :: rest, mirrored :: others =>
    made.Alike pool mirrored →
      Concurs pool first second here there made mirrored ∧
        ServeAlike pool first second (first.step here made) (second.step there mirrored) rest
          others
  | _, _, _, _ => True

variable {first second : Outside} {here there : Moment}

theorem ServeAlike.left
    {calls rest others further : List Call}
    (serve : ServeAlike pool first second here there (calls ++ rest) (others ++ further)) :
    ServeAlike pool first second here there calls others := by
  induction calls generalizing here there others with
  | nil => trivial
  | cons made calls ih =>
    cases others with
    | nil => trivial
    | cons mirrored others =>
      intro alike
      exact ⟨(serve alike).1, ih (serve alike).2⟩

theorem ServeAlike.right
    {calls rest others further : List Call}
    (alike : List.Forall₂ (Call.Alike pool) calls others)
    (serve : ServeAlike pool first second here there (calls ++ rest) (others ++ further)) :
    ServeAlike pool first second (first.replay here calls) (second.replay there others) rest
      further := by
  induction alike generalizing here there with
  | nil => exact serve
  | cons same _ ih => exact ih (serve same).2

end Outside

/-- Two worlds between passes of a pool: they hold the same containers of the pool, which
other containers have nothing to do with, and the same variables, and the same machine runs
the service. -/
structure World.Beside (pool : Pool) (first second : World) : Prop where
  limits : second.outside.limits = first.outside.limits
  containers : ofPool pool.name second.containers = ofPool pool.name first.containers
  environment : second.environment = first.environment
  apart : first.outside.KeepsApart pool.name
  alsoApart : second.outside.KeepsApart pool.name

/-- Why the container engine cannot be reached, if it cannot. -/
def World.refusal? (world : World) : Option Fault :=
  if world.connected then none else world.outside.connectFault world.history

/-- Two worlds at the start of passes of a pool: they also show the same time, and the engine
can be reached in both or in neither. -/
structure World.Facing (pool : Pool) (first second : World) : Prop
    extends World.Beside pool first second where
  clock : second.clock = first.clock
  refusal : second.refusal? = first.refusal?

/-- Two worlds in the middle of passes of a pool: they also show the same time, and the engine
was reached in both. -/
structure World.Abreast (pool : Pool) (first second : World) : Prop
    extends World.Beside pool first second where
  clock : second.clock = first.clock
  connected : first.connected = true
  alsoConnected : second.connected = true

/-- Two traces in whose course alike calls come to the same, and no stop signal arrives. -/
structure World.Parallel
    (pool : Pool)
    (first second : World)
    (calls others : List Call)
    (after beyond : World) : Prop where
  follows : first.Follows calls after
  alsoFollows : second.Follows others beyond
  serve :
    Outside.ServeAlike pool first.outside second.outside first.moment second.moment calls
      others
  working : after.stopped = false
  alsoWorking : beyond.stopped = false

/-- The stop signal had not arrived before if it has not arrived since. -/
theorem World.Follows.working
    {before after : World}
    {calls : List Call}
    (follows : before.Follows calls after)
    (working : after.stopped = false) :
    before.stopped = false :=
  Outside.working_of_replay (follows.stopped.symm.trans working)

/-- A world is led to from an earlier one by calls. -/
def World.Leads (before after : World) : Prop :=
  ∃ calls, before.Follows calls after

theorem World.leads_isCourse : Act.IsCourse World.Leads where
  refl world := ⟨[], .refl world⟩
  trans := by
    rintro before between after ⟨first, leads⟩ ⟨second, further⟩
    exact ⟨first ++ second, leads.trans further⟩

/-- Without a call the worlds beside each other stay so. -/
theorem World.Beside.still
    {first second after beyond : World}
    (beside : World.Beside pool first second)
    (follows : first.Follows [] after)
    (alsoFollows : second.Follows [] beyond) :
    World.Beside pool after beyond where
  limits := by rw [follows.outside, alsoFollows.outside, beside.limits]
  containers := by
    rw [follows.containers, alsoFollows.containers]
    exact beside.containers
  environment := by rw [follows.environment, alsoFollows.environment, beside.environment]
  apart := by rw [follows.outside]; exact beside.apart
  alsoApart := by rw [alsoFollows.outside]; exact beside.alsoApart

namespace World.Parallel

variable
  {first second between opposite after beyond : World}
  {calls others : List Call}

/-- The traces are those by which the worlds at their ends follow. -/
theorem calls_eq
    (parallel : Parallel pool first second calls others after beyond)
    {made mirrored : List Call}
    (follows : first.Follows made after)
    (alsoFollows : second.Follows mirrored beyond) :
    calls = made ∧ others = mirrored := by
  rw [← parallel.follows.callsSince, ← parallel.alsoFollows.callsSince, follows.callsSince,
    alsoFollows.callsSince]
  exact ⟨rfl, rfl⟩

/-- Parallel traces are parallel up to worlds that they pass through, and if they are alike up
to there, they are parallel from there on. -/
theorem split
    (parallel : Parallel pool first second calls others after beyond)
    (leads : first.Leads between)
    (alsoLeads : second.Leads opposite)
    (further : between.Leads after)
    (alsoFurther : opposite.Leads beyond) :
    ∃ early late alsoEarly alsoLate,
      calls = early ++ late ∧
        others = alsoEarly ++ alsoLate ∧
          Parallel pool first second early alsoEarly between opposite ∧
            (List.Forall₂ (Call.Alike pool) early alsoEarly →
              Parallel pool between opposite late alsoLate after beyond) := by
  rcases leads with ⟨early, follows⟩
  rcases alsoLeads with ⟨alsoEarly, alsoFollows⟩
  rcases further with ⟨late, later⟩
  rcases alsoFurther with ⟨alsoLate, alsoLater⟩
  rcases parallel.calls_eq (follows.trans later) (alsoFollows.trans alsoLater) with ⟨rfl, rfl⟩
  refine ⟨early, late, alsoEarly, alsoLate, rfl, rfl, ?_, fun alike => ?_⟩
  · exact
      { follows
        alsoFollows
        serve := parallel.serve.left
        working := later.working parallel.working
        alsoWorking := alsoLater.working parallel.alsoWorking }
  · exact
      { follows := later
        alsoFollows := alsoLater
        serve := by
          rw [follows.outside, alsoFollows.outside, follows.moment, alsoFollows.moment]
          exact parallel.serve.right alike
        working := parallel.working
        alsoWorking := parallel.alsoWorking }

end World.Parallel

/-! ## Agreement -/

namespace Act

/-- What an act does to the world is told by calls. -/
abbrev Traced (act : Act Answer) : Prop :=
  Keeps World.Leads act

theorem Traced.of_does
    {act : Act Answer}
    {condition : World → Answer → List Call → World → Prop}
    (does : ∀ world, act.Does world (condition world)) :
    Traced act := by
  intro world
  rcases does world with ⟨calls, follows, _⟩
  exact ⟨calls, follows⟩

theorem Traced.noteAll (lines : List LogLine) : Traced (noteAll lines) :=
  fun _ => ⟨[], rfl, rfl, rfl⟩

/-- From worlds that are related, and as long as alike calls come to the same, two acts make
alike calls, and their answers and the worlds that they leave are related. -/
structure Mirrors
    (pool : Pool)
    (before : World → World → Prop)
    (first : Act Answer)
    (second : Act Other)
    (after : Answer → Other → World → World → Prop) : Prop where
  traced : Traced first
  alsoTraced : Traced second
  mirror :
    ∀ {here there : World} {calls others : List Call},
      before here there →
        World.Parallel pool here there calls others (first.run here).2 (second.run there).2 →
          List.Forall₂ (Call.Alike pool) calls others ∧
            after (first.run here).1 (second.run there).1 (first.run here).2 (second.run there).2

/-- What two parts do in parallel, followed by what two further parts do. -/
theorem Mirrors.bind
    {before : World → World → Prop}
    {first : Act Answer}
    {second : Act Other}
    {between : Answer → Other → World → World → Prop}
    {next : Answer → Act Result}
    {following : Other → Act Further}
    {after : Result → Further → World → World → Prop}
    (mirrors : Mirrors pool before first second between)
    (further :
      ∀ answer other,
        Mirrors pool (between answer other) (next answer) (following other) after) :
    Mirrors pool before (first >>= next) (second >>= following) after where
  traced world :=
    World.leads_isCourse.trans (mirrors.traced world)
      ((further _ (second.run world).1).traced _)
  alsoTraced world :=
    World.leads_isCourse.trans (mirrors.alsoTraced world)
      ((further (first.run world).1 _).alsoTraced _)
  mirror := by
    intro here there calls others start parallel
    rw [run_bind, run_bind] at parallel ⊢
    have rest := further (first.run here).1 (second.run there).1
    rcases parallel.split (mirrors.traced here) (mirrors.alsoTraced there) (rest.traced _)
      (rest.alsoTraced _) with ⟨_, _, _, _, rfl, rfl, begun, goes⟩
    rcases mirrors.mirror start begun with ⟨alike, middle⟩
    rcases rest.mirror middle (goes alike) with ⟨alsoAlike, ended⟩
    exact ⟨List.rel_append alike alsoAlike, ended⟩

/-- A fact about the answers so far may be taken for granted. -/
theorem Mirrors.given
    {fact : Prop}
    {before : World → World → Prop}
    {first : Act Answer}
    {second : Act Other}
    {after : Answer → Other → World → World → Prop}
    (traced : Traced first)
    (alsoTraced : Traced second)
    (mirrors : fact → Mirrors pool before first second after) :
    Mirrors pool (fun here there => fact ∧ before here there) first second after where
  traced := traced
  alsoTraced := alsoTraced
  mirror start parallel := (mirrors start.1).mirror start.2 parallel

theorem Mirrors.mono
    {before earlier : World → World → Prop}
    {first : Act Answer}
    {second : Act Other}
    {after later : Answer → Other → World → World → Prop}
    (mirrors : Mirrors pool before first second after)
    (needed : ∀ here there, earlier here there → before here there)
    (implied :
      ∀ answer other here there,
        after answer other here there → later answer other here there) :
    Mirrors pool earlier first second later where
  traced := mirrors.traced
  alsoTraced := mirrors.alsoTraced
  mirror start parallel := by
    rcases mirrors.mirror (needed _ _ start) parallel with ⟨alike, ended⟩
    exact ⟨alike, implied _ _ _ _ ended⟩

/-- After parts with the same answer the rest has to go alike on that answer alone. -/
theorem Mirrors.bind_same
    {before : World → World → Prop}
    {first second : Act Answer}
    {between : Answer → World → World → Prop}
    {next : Answer → Act Result}
    {following : Answer → Act Further}
    {after : Result → Further → World → World → Prop}
    (mirrors :
      Mirrors pool before first second fun answer other here there =>
        answer = other ∧ between answer here there)
    (further : ∀ answer, Mirrors pool (between answer) (next answer) (following answer) after) :
    Mirrors pool before (first >>= next) (second >>= following) after := by
  refine mirrors.bind fun answer other => ?_
  refine .given (further answer).traced (further other).alsoTraced ?_
  rintro rfl
  exact further answer

theorem Mirrors.attempt_lift_bind_same
    {before : World → World → Prop}
    {first second : Act Answer}
    {between : Answer → World → World → Prop}
    {next : Answer → Attempt Result}
    {following : Answer → Attempt Further}
    {after : Except Failure Result → Except Failure Further → World → World → Prop}
    (mirrors :
      Mirrors pool before first second fun answer other here there =>
        answer = other ∧ between answer here there)
    (further :
      ∀ answer, Mirrors pool (between answer) (next answer).run (following answer).run after) :
    Mirrors pool before (liftM first >>= next : Attempt Result).run
      (liftM second >>= following : Attempt Further).run after :=
  mirrors.bind_same further

theorem Mirrors.pure
    {before : World → World → Prop}
    {answer : Answer}
    {other : Other}
    {after : Answer → Other → World → World → Prop}
    (implied : ∀ here there, before here there → after answer other here there) :
    Mirrors pool before (pure answer) (pure other) after where
  traced := Keeps.pure World.leads_isCourse answer
  alsoTraced := Keeps.pure World.leads_isCourse other
  mirror := by
    intro here there calls others start parallel
    rcases parallel.calls_eq (.refl here) (.refl there) with ⟨rfl, rfl⟩
    exact ⟨.nil, implied here there start⟩

/-- Lines of the log keep worlds beside each other, and may differ. -/
theorem Mirrors.noteAll (lines others : List LogLine) :
    Mirrors pool (World.Beside pool) (noteAll lines) (noteAll others)
      fun answer other here there => answer = other ∧ World.Beside pool here there where
  traced := .noteAll lines
  alsoTraced := .noteAll others
  mirror := by
    intro here there _ _ beside parallel
    have follows : here.Follows [] ((RunnerFleet.noteAll lines).run here).2 := ⟨rfl, rfl, rfl⟩
    have alsoFollows : there.Follows [] ((RunnerFleet.noteAll others).run there).2 :=
      ⟨rfl, rfl, rfl⟩
    rcases parallel.calls_eq follows alsoFollows with ⟨rfl, rfl⟩
    exact ⟨.nil, rfl, beside.still follows alsoFollows⟩

/-- From worlds that are abreast, two acts end with related answers and leave worlds that are
abreast. -/
abbrev Agrees
    (pool : Pool)
    (related : Answer → Other → Prop)
    (first : Act Answer)
    (second : Act Other) : Prop :=
  Mirrors pool (World.Abreast pool) first second fun answer other here there =>
    related answer other ∧ World.Abreast pool here there

/-- An act agrees with itself on its answer. -/
abbrev Steady (pool : Pool) (act : Act Answer) : Prop :=
  Agrees pool Eq act act

namespace Agrees

variable {related : Answer → Other → Prop} {also : Result → Further → Prop}

/-- Acts without calls that leave worlds abreast. -/
theorem of_silent
    {first : Act Answer}
    {second : Act Other}
    (silent : ∀ world, first.Does world fun _ calls after =>
      calls = [] ∧ after.connected = world.connected)
    (alsoSilent : ∀ world, second.Does world fun _ calls after =>
      calls = [] ∧ after.connected = world.connected)
    (answers :
      ∀ here there,
        World.Abreast pool here there →
          here.stopped = false →
            there.stopped = false → related (first.run here).1 (second.run there).1) :
    Agrees pool related first second where
  traced := .of_does silent
  alsoTraced := .of_does alsoSilent
  mirror := by
    intro here there calls others abreast parallel
    rcases silent here with ⟨_, follows, rfl, kept⟩
    rcases alsoSilent there with ⟨_, alsoFollows, rfl, alsoKept⟩
    rcases parallel.calls_eq follows alsoFollows with ⟨rfl, rfl⟩
    have answered :=
      answers here there abreast (follows.working parallel.working)
        (alsoFollows.working parallel.alsoWorking)
    refine ⟨.nil, answered, ?_⟩
    exact
      { abreast.toBeside.still follows alsoFollows with
        clock := by rw [follows.clock, alsoFollows.clock]; exact abreast.clock
        connected := kept.trans abreast.connected
        alsoConnected := alsoKept.trans abreast.alsoConnected }

protected theorem pure
    {answer : Answer}
    {other : Other}
    (holds : related answer other) :
    Agrees pool related (pure answer) (pure other) :=
  Mirrors.pure fun _ _ abreast => ⟨holds, abreast⟩

protected theorem bind
    {first : Act Answer}
    {second : Act Other}
    {next : Answer → Act Result}
    {following : Other → Act Further}
    (agrees : Agrees pool related first second)
    (traced : ∀ answer, Traced (next answer))
    (alsoTraced : ∀ other, Traced (following other))
    (further :
      ∀ answer other,
        related answer other → Agrees pool also (next answer) (following other)) :
    Agrees pool also (first >>= next) (second >>= following) :=
  Mirrors.bind agrees fun answer other =>
    .given (traced answer) (alsoTraced other) (further answer other)

/-- After parts with the same answer the rest has to agree on that answer alone. -/
theorem bind_same
    {first second : Act Answer}
    {next : Answer → Act Result}
    {following : Answer → Act Further}
    (agrees : Agrees pool Eq first second)
    (further : ∀ answer, Agrees pool also (next answer) (following answer)) :
    Agrees pool also (first >>= next) (second >>= following) :=
  Mirrors.bind_same agrees further

theorem attempt_lift_bind
    {first : Act Answer}
    {second : Act Other}
    {next : Answer → Attempt Result}
    {following : Other → Attempt Further}
    {also : Except Failure Result → Except Failure Further → Prop}
    (agrees : Agrees pool related first second)
    (traced : ∀ answer, Traced (next answer).run)
    (alsoTraced : ∀ other, Traced (following other).run)
    (further :
      ∀ answer other,
        related answer other → Agrees pool also (next answer).run (following other).run) :
    Agrees pool also (liftM first >>= next : Attempt Result).run
      (liftM second >>= following : Attempt Further).run :=
  agrees.bind traced alsoTraced further

/-- The lines of a log may differ. -/
theorem noteAll (lines others : List LogLine) :
    Agrees pool Eq (noteAll lines) (noteAll others) :=
  of_silent (fun _ => Does.noteAll ⟨rfl, rfl⟩) (fun _ => Does.noteAll ⟨rfl, rfl⟩)
    fun _ _ _ _ _ => rfl

end Agrees

namespace Steady

theorem now : Steady pool now :=
  .of_silent (fun _ => Does.now ⟨rfl, rfl⟩) (fun _ => Does.now ⟨rfl, rfl⟩)
    fun _ _ abreast _ _ => abreast.clock.symm

theorem isStopped : Steady pool isStopped :=
  .of_silent (fun _ => Does.isStopped ⟨rfl, rfl⟩) (fun _ => Does.isStopped ⟨rfl, rfl⟩)
    fun _ _ _ working alsoWorking => working.trans alsoWorking.symm

theorem limits : Steady pool limits :=
  .of_silent (fun _ => Does.limits ⟨rfl, rfl⟩) (fun _ => Does.limits ⟨rfl, rfl⟩)
    fun _ _ abreast _ _ => abreast.limits.symm

/-- That acts agree with themselves is passed on from their parts. -/
theorem passedOn (pool : Pool) : PassedOn fun act => Steady pool act where
  returns _ := .pure rfl
  composes := Agrees.bind_same

end Steady

end Act

end RunnerFleet
