import Mathlib.Data.List.Perm.Subperm
import RunnerFleet.Proofs.Agreement
import RunnerFleet.Proofs.Picking
import RunnerFleet.Proofs.Registering

/-!
# What a pass launches

A pass launches one runner for each of its first candidates, in order and as many as there
are free slots.  What breaks this off leaves the starts of a first part of them, and after a
launch that fails there is no other.

A launch draws the suffix of the runner's name before it turns to the engine, which it may
not reach.  So launches are counted by the choices that were drawn, and what they launched is
read off the calls.
-/

namespace RunnerFleet

/-! ## Launches in a trace -/

/-- The runner that a call is to start. -/
def Call.runner? : Call → Option RunnerSpec
  | .run runner => some runner
  | _ => none

/-- The runners that the calls of a trace are to start. -/
def launchedBy (calls : List Call) : List RunnerSpec :=
  calls.filterMap Call.runner?

@[simp]
theorem launchedBy_nil : launchedBy [] = [] :=
  rfl

@[simp]
theorem launchedBy_cons_run (runner : RunnerSpec) (calls : List Call) :
    launchedBy (.run runner :: calls) = runner :: launchedBy calls :=
  rfl

theorem launchedBy_append (first second : List Call) :
    launchedBy (first ++ second) = launchedBy first ++ launchedBy second :=
  List.filterMap_append

theorem mem_launchedBy {runner : RunnerSpec} {calls : List Call} :
    runner ∈ launchedBy calls ↔ .run runner ∈ calls := by
  rw [launchedBy, List.mem_filterMap]
  constructor
  · rintro ⟨made, member, same⟩
    cases made with
    | run other =>
      cases same
      exact member
    | ask | list | wait => cases same
  · exact fun member => ⟨_, member, rfl⟩

theorem launchedBy_eq_nil {calls : List Call} (idle : ∀ made ∈ calls, made.isRun = false) :
    launchedBy calls = [] := by
  rw [List.eq_nil_iff_forall_not_mem]
  intro runner member
  have other : Call.isRun (.run runner) = false := idle _ (mem_launchedBy.mp member)
  cases other

/-! ## Launches for candidates -/

/-- There was one launch for each candidate, and each one started a runner. -/
structure Served
    (candidates : List Candidate)
    (starts : List Start)
    (launched : List RunnerSpec)
    (launches : Nat) : Prop where
  inOrder : starts.map (·.candidate) = candidates
  named : launched.map (·.name) = starts.map (·.runner)
  counted : launches = candidates.length

/-- There were launches for the first candidates that started runners, and at most one more,
which did not. -/
structure BrokenOff
    (candidates : List Candidate)
    (starts : List Start)
    (launched : List RunnerSpec)
    (launches : Nat) : Prop where
  inOrder : ∃ next rest, candidates = starts.map (·.candidate) ++ next :: rest
  named :
    ∃ unstarted : List Text,
      launched.map (·.name) = starts.map (·.runner) ++ unstarted ∧ unstarted.length ≤ 1
  atLeast : starts.length ≤ launches
  atMost : launches ≤ starts.length + 1

section Courses

variable
  {candidates : List Candidate}
  {starts : List Start}
  {launched : List RunnerSpec}
  {launches : Nat}

theorem Served.nil : Served [] [] [] 0 where
  inOrder := rfl
  named := rfl
  counted := rfl

theorem Served.cons
    (candidate : Candidate)
    (runner : RunnerSpec)
    (time : Float)
    (served : Served candidates starts launched launches) :
    Served (candidate :: candidates) (⟨candidate, runner.name, time⟩ :: starts)
      (runner :: launched) (launches + 1) where
  inOrder := congrArg (candidate :: ·) served.inOrder
  named := congrArg (runner.name :: ·) served.named
  counted := congrArg (· + 1) served.counted

theorem Served.length_le
    (served : Served candidates starts launched launches) :
    starts.length ≤ candidates.length := by
  simp [← served.inOrder]

theorem BrokenOff.cons
    (candidate : Candidate)
    (runner : RunnerSpec)
    (time : Float)
    (broken : BrokenOff candidates starts launched launches) :
    BrokenOff (candidate :: candidates) (⟨candidate, runner.name, time⟩ :: starts)
      (runner :: launched) (launches + 1) where
  inOrder := by
    rcases broken.inOrder with ⟨next, rest, rfl⟩
    exact ⟨next, rest, rfl⟩
  named := by
    rcases broken.named with ⟨unstarted, named, few⟩
    exact ⟨unstarted, congrArg (runner.name :: ·) named, few⟩
  atLeast := Nat.succ_le_succ broken.atLeast
  atMost := Nat.succ_le_succ broken.atMost

theorem BrokenOff.length_le
    (broken : BrokenOff candidates starts launched launches) :
    starts.length ≤ candidates.length := by
  rcases broken.inOrder with ⟨next, rest, rfl⟩
  simp

/-- Launches that were broken off before the first one, or by the first one. -/
theorem BrokenOff.of_cons
    (candidate : Candidate)
    (candidates : List Candidate)
    (few : launched.length ≤ 1)
    (atMost : launches ≤ 1) :
    BrokenOff (candidate :: candidates) [] launched launches where
  inOrder := ⟨candidate, candidates, rfl⟩
  named := ⟨launched.map (·.name), rfl, by rw [List.length_map]; exact few⟩
  atLeast := Nat.zero_le _
  atMost := atMost

end Courses

/-- Launches served all candidates, or they were broken off by what ended the starting. -/
def Starts.Launch
    (starts : Starts)
    (candidates : List Candidate)
    (launched : List RunnerSpec)
    (launches : Nat) : Prop :=
  match starts.ended with
  | none => Served candidates starts.made launched launches
  | some _ => BrokenOff candidates starts.made launched launches

theorem Starts.Launch.cons
    {starts : Starts}
    {candidates : List Candidate}
    {launched : List RunnerSpec}
    {launches : Nat}
    (candidate : Candidate)
    (runner : RunnerSpec)
    (time : Float)
    (launch : starts.Launch candidates launched launches) :
    (starts.cons ⟨candidate, runner.name, time⟩).Launch (candidate :: candidates)
      (runner :: launched) (launches + 1) := by
  rcases starts with ⟨made, ended⟩
  cases ended with
  | none => exact Served.cons candidate runner time launch
  | some ending => exact BrokenOff.cons candidate runner time launch

namespace Provisioner

variable (provisioner : Provisioner) (pool : Pool)

theorem startEach_launches
    (token : Text)
    (labels : List Text)
    (candidates : List Candidate)
    (world : World) :
    (provisioner.startEach pool token labels candidates).Does world fun starts calls after =>
      ∃ launches,
        after.choices = world.choices + Runner.suffixLength * launches ∧
          starts.Launch candidates (launchedBy calls) launches := by
  induction candidates generalizing world with
  | nil => exact Act.Does.pure ⟨0, rfl, .nil⟩
  | cons candidate rest ih =>
    refine Act.Does.bind (Act.Does.isStopped ?_)
    cases world.stopped with
    | true => exact Act.Does.pure ⟨0, rfl, .of_cons candidate rest (by simp) (by simp)⟩
    | false =>
      apply Act.Does.bind
      apply (provisioner.launcher.start_does pool labels token world).mono
      rintro outcome calls after _ ⟨course, drawn⟩
      cases course with
      | unreached failure =>
        exact Act.Does.pure ⟨1, drawn, .of_cons candidate rest (by simp) (Nat.le_refl 1)⟩
      | failed runner failure ofPool fails =>
        exact Act.Does.pure ⟨1, drawn, .of_cons candidate rest (by simp) (Nat.le_refl 1)⟩
      | started runner ofPool starts =>
        refine Act.Does.bind (Act.Does.now (Act.Does.bind (Act.Does.noteAll ?_)))
        apply Act.Does.bind
        apply (ih _).mono
        rintro more calls last _ ⟨launches, more_drawn, launch⟩
        have count :
            last.choices = world.choices + Runner.suffixLength * (launches + 1) := by
          replace more_drawn :
              last.choices = after.choices + Runner.suffixLength * launches := more_drawn
          rw [more_drawn, drawn, Nat.mul_succ]
          omega
        apply Act.Does.pure
        refine ⟨launches + 1, count, ?_⟩
        simpa using launch.cons candidate runner after.clock

/-- What is not done for want of a credential breaks the launches off before the first. -/
theorem startAll_launches
    (labels : List Text)
    (candidates : List Candidate)
    (world : World) :
    (provisioner.startAll pool labels candidates).Does world fun starts calls after =>
      ∃ launches,
        after.choices = world.choices + Runner.suffixLength * launches ∧
          starts.Launch candidates (launchedBy calls) launches := by
  rw [startAll]
  cases candidates with
  | nil => exact Act.Does.pure ⟨0, rfl, .nil⟩
  | cons candidate rest =>
    have unmade : BrokenOff (candidate :: rest) [] (launchedBy []) 0 :=
      .of_cons candidate rest (by simp) (by simp)
    refine Act.Does.bind (Act.Does.get ?_)
    split
    · exact Act.Does.pure ⟨0, rfl, unmade⟩
    · exact Act.Does.pure ⟨0, rfl, unmade⟩
    · split
      · exact Act.Does.pure ⟨0, rfl, unmade⟩
      · exact provisioner.startEach_launches pool _ labels (candidate :: rest) world

end Provisioner

/-! ## More slots -/

namespace Provisioner

variable (provisioner : Provisioner) (pool : Pool)

/-- With more candidates at the end the same starts are made first. -/
theorem startEach_isPrefix
    (token : Text)
    (labels : List Text)
    (first more : List Candidate)
    (world : World) :
    ((provisioner.startEach pool token labels first).run world).1.made <+:
      ((provisioner.startEach pool token labels (first ++ more)).run world).1.made := by
  induction first generalizing world with
  | nil => exact List.nil_prefix
  | cons candidate rest ih =>
    rw [List.cons_append, startEach_cons, startEach_cons, Act.run_bind, Act.run_bind,
      run_isStopped]
    cases world.stopped with
    | true => exact List.nil_prefix
    | false =>
      simp only [Bool.false_eq_true, if_false, Act.run_bind]
      cases ((provisioner.launcher.start pool labels token).run.run world).1 with
      | error failure => exact List.nil_prefix
      | ok runner => exact (List.prefix_cons_inj _).mpr (ih _)

/-- The starting of runners does not depend on how many there may be. -/
theorem startEach_capacity
    (capacity : Int)
    (token : Text)
    (labels : List Text)
    (candidates : List Candidate) :
    provisioner.startEach { pool with capacity } token labels candidates =
      provisioner.startEach pool token labels candidates := by
  induction candidates with
  | nil => rfl
  | cons candidate rest ih =>
    simp only [startEach, ih]
    rfl

theorem startAll_capacity
    (capacity : Int)
    (labels : List Text)
    (candidates : List Candidate) :
    provisioner.startAll { pool with capacity } labels candidates =
      provisioner.startAll pool labels candidates := by
  simp only [startAll, startEach_capacity]
  rfl

theorem startAll_isPrefix
    (labels : List Text)
    {first all : List Candidate}
    (isFirst : first <+: all)
    (world : World) :
    ((provisioner.startAll pool labels first).run world).1.made <+:
      ((provisioner.startAll pool labels all).run world).1.made := by
  rcases isFirst with ⟨more, rfl⟩
  cases first with
  | nil => exact List.nil_prefix
  | cons candidate rest =>
    simp only [startAll, List.cons_append, List.isEmpty_cons, Bool.false_eq_true, if_false,
      Act.run_bind]
    split
    · exact List.nil_prefix
    · exact List.nil_prefix
    · split
      · exact List.nil_prefix
      · exact provisioner.startEach_isPrefix pool _ labels (candidate :: rest) more _

end Provisioner

/-! ## Passes -/

/-- How a pass ends after its launches.  It fails after the last one only if the number of
free slots is too long for the line of the log that closes the pass. -/
inductive PassEnd.Launched
    (decision : Decision)
    (due : List Candidate)
    (launched : List RunnerSpec)
    (launches : Nat) : PassEnd → Prop where
  | finished
      (served : Served due decision.starts launched launches) :
      Launched decision due launched launches (.finished decision)
  | unwritable
      (long : Number.isWritable decision.slots = false)
      (served : Served due decision.starts launched launches) :
      Launched decision due launched launches (.failed .tooManyDigits)
  | startFailed
      (fault : StartFault)
      (broken : BrokenOff due decision.starts launched launches) :
      Launched decision due launched launches (.startFailed fault decision)
  | failed
      (failure : Failure)
      (broken : BrokenOff due decision.starts launched launches) :
      Launched decision due launched launches (.failed failure)

/-- The starts that a pass makes before it ends are not more than there are candidates. -/
theorem PassEnd.Launched.length_le
    {decision : Decision}
    {due : List Candidate}
    {launched : List RunnerSpec}
    {launches : Nat}
    {ending : PassEnd}
    (course : ending.Launched decision due launched launches) :
    decision.starts.length ≤ due.length := by
  cases course with
  | finished served => exact served.length_le
  | unwritable _ served => exact served.length_le
  | startFailed _ broken => exact broken.length_le
  | failed _ broken => exact broken.length_le

/-- There are no more candidates than jobs. -/
theorem Prospect.Surveyed.length_le
    {prospect : Prospect}
    {ledger : Ledger}
    (surveyed : prospect.Surveyed ledger) :
    prospect.candidates.length ≤ prospect.jobs.length := by
  have among : prospect.candidates.map (·.key) ⊆ jobKeys prospect.jobs :=
    fun key member => ((surveyed.mem_keys_iff key).mp member).1
  calc
    prospect.candidates.length
        = (prospect.candidates.map (·.key)).length := (List.length_map _).symm
    _ ≤ (jobKeys prospect.jobs).length := (surveyed.nodup_keys.subperm among).length_le
    _ ≤ prospect.jobs.length := List.length_filterMap_le _ _

namespace Provisioner

variable (provisioner : Provisioner) (pool : Pool) (active : Int)

theorem provide_launches (prospect : Prospect) (world : World) :
    (provisioner.provide pool active prospect).Does world fun answer calls after =>
      let due := prospect.candidates.take (freeSlots pool active)
      let starts :=
        ((provisioner.startAll pool (provisioner.offered pool) due).run world).1.made
      prospect.starts (world.outside.started world.moment calls) = starts ∧
        ∃ launches,
          after.choices = world.choices + Runner.suffixLength * launches ∧
            answer.1.Launched (provisioner.decisionOf pool active prospect starts) due
              (launchedBy calls) launches := by
  apply provisioner.provide_parts pool
  apply (((provisioner.startAll_does pool _ _ world).and
    (provisioner.startAll_launches pool _ _ world)).ran).mono
  rintro starts calls after _ ⟨⟨course, launches, drawn, launch⟩, ran⟩ ending noted concludes _
    same
  have traced : prospect.starts (world.outside.started world.moment calls) = starts.made :=
    course.made_eq_starts.symm
  have counted : noted.choices = world.choices + Runner.suffixLength * launches :=
    same.trans drawn
  dsimp only
  rw [← ran]
  refine ⟨traced, launches, counted, ?_⟩
  rcases starts with ⟨made, ended⟩
  cases concludes with
  | finished _ => exact .finished launch
  | unwritable long => exact .unwritable long launch
  | fault fault => exact .startFailed fault launch
  | failure failure => exact .failed failure launch

/-- What a pass launches, by how far it gets. -/
theorem pass_course (world : World) :
    (provisioner.pass pool active).Does world fun answer calls after =>
      ∃ launches,
        after.choices = world.choices + Runner.suffixLength * launches ∧
          match provisioner.prospect? pool active world with
          | none =>
            launchedBy calls = [] ∧ launches = 0 ∧
              ((∃ failure, answer.1 = .failed failure) ∨
                freeSlots pool active = 0 ∧ answer.1 = .finished { active, slots := 0 })
          | some prospect =>
            let due := prospect.candidates.take (freeSlots pool active)
            let starts := prospect.starts (world.outside.started world.moment calls)
            let reached := ((provisioner.prospect pool).run.run world).2
            starts =
                ((provisioner.startAll pool (provisioner.offered pool) due).run reached).1.made ∧
              answer.1.Launched (provisioner.decisionOf pool active prospect starts) due
                (launchedBy calls) launches := by
  refine provisioner.pass_parts pool ?full ?failed ?reached
  case full =>
    intro full none after choices
    rw [none]
    exact ⟨0, choices, rfl, rfl, .inr ⟨full, rfl⟩⟩
  case failed =>
    intro failure asked after none asks choices
    rw [none]
    exact ⟨0, choices, launchedBy_eq_nil asks.no_run, rfl, .inl ⟨failure, rfl⟩⟩
  case reached =>
    intro between prospect asked found asks follows choices
    apply (provisioner.provide_launches pool active prospect between).mono
    rintro answer calls after _ ⟨traced, launches, drawn, launched⟩
    have sameStarts :
        prospect.starts (world.outside.started world.moment (asked ++ calls)) =
          prospect.starts (between.outside.started between.moment calls) := by
      rw [Outside.started_append, Outside.started_eq_nil asks.no_run, List.nil_append,
        follows.outside, follows.moment]
    refine ⟨launches, ?_, ?_⟩
    · rw [drawn, choices]
    · rw [found, launchedBy_append, launchedBy_eq_nil asks.no_run, List.nil_append]
      dsimp only
      rw [sameStarts]
      refine ⟨traced, ?_⟩
      rw [traced]
      exact launched

/-- The starts of an episode are those that the starting of runners makes for the first of
the candidates. -/
theorem starts_episode (world : World) :
    (provisioner.episode ⟨pool, active, world⟩).starts =
      match provisioner.prospect? pool active world with
      | none => []
      | some prospect =>
        ((provisioner.startAll pool (provisioner.offered pool)
          (prospect.candidates.take (freeSlots pool active))).run
            ((provisioner.prospect pool).run.run world).2).1.made := by
  rcases provisioner.pass_course pool active world with ⟨calls, follows, launches, _, course⟩
  rw [Episode.starts, episode]
  dsimp only
  rw [follows.callsSince]
  cases found : provisioner.prospect? pool active world with
  | none => rfl
  | some prospect =>
    rw [found] at course
    exact course.1

/-- A pool for more runners has the same starts first. -/
theorem starts_episode_isPrefix (more : Nat) (world : World) :
    (provisioner.episode ⟨pool, active, world⟩).starts <+:
      (provisioner.episode
        ⟨{ pool with capacity := pool.capacity + more }, active, world⟩).starts := by
  rw [starts_episode, starts_episode]
  have slots :
      freeSlots pool active ≤
        freeSlots { pool with capacity := pool.capacity + more } active := by
    simp only [freeSlots]
    omega
  cases found : provisioner.prospect? pool active world with
  | none => exact List.nil_prefix
  | some prospect =>
    have foundToo :
        provisioner.prospect? { pool with capacity := pool.capacity + more } active world =
          some prospect := by
      simp only [prospect?] at found ⊢
      split at found
      · cases found
      next free =>
        rw [if_neg (by omega)]
        exact found
    rw [foundToo]
    dsimp only
    rw [provisioner.startAll_capacity pool (pool.capacity + more)]
    exact provisioner.startAll_isPrefix pool _ (List.take_prefix_take_left slots) _

/-- A pass launches runners for the first of its candidates.

Every runner that a pass launches is one of the pool, with the labels that the decision shows
and the pool's credential for registration.  A pass that runs to its end with free slots has
launched one for each of the first candidates, as many as there are slots, and the decision
lists the starts in their order, each with its candidate and the runner's name.  A pass that
ends while it starts runners has done so for fewer of them, in the same order, and made at
most one launch more, the last one.  However it ends, there are no more starts than slots and
candidates, and a pool for more runners has the same starts first. -/
theorem pass_launches (world : World) :
    (provisioner.pass pool active).Does world fun answer calls after =>
      let starts := (provisioner.episode ⟨pool, active, world⟩).starts
      let slots := freeSlots pool active
      (∀ runner ∈ launchedBy calls,
          provisioner.Registers pool world.environment (provisioner.offered pool)
            (.run runner)) ∧
        (∀ more : Nat,
          starts <+:
            (provisioner.episode
              ⟨{ pool with capacity := pool.capacity + more }, active, world⟩).starts) ∧
        ∃ launches,
          after.choices = world.choices + Runner.suffixLength * launches ∧
            match provisioner.prospect? pool active world with
            | none =>
              starts = [] ∧ launchedBy calls = [] ∧ launches = 0 ∧
                ((∃ failure, answer.1 = .failed failure) ∨
                  slots = 0 ∧ answer.1 = .finished { active, slots := 0 })
            | some prospect =>
              starts.length ≤ slots ∧
                starts.length ≤ prospect.candidates.length ∧
                prospect.candidates.length ≤ prospect.jobs.length ∧
                answer.1.Launched (provisioner.decisionOf pool active prospect starts)
                  (prospect.candidates.take slots) (launchedBy calls) launches := by
  apply ((provisioner.pass_makes pool active world).and
    (provisioner.pass_course pool active world)).mono
  rintro answer calls after _ ⟨registers, launches, drawn, course⟩
  refine ⟨?_, ?_, launches, drawn, ?_⟩
  · exact fun runner member => registers runner (mem_launchedBy.mp member)
  · exact fun more => provisioner.starts_episode_isPrefix pool active more world
  · rw [starts_episode]
    cases found : provisioner.prospect? pool active world with
    | none =>
      rw [found] at course
      exact ⟨rfl, course⟩
    | some prospect =>
      rw [found] at course
      rcases course with ⟨same, launched⟩
      rw [same] at launched
      have few := launched.length_le
      dsimp only
      refine ⟨?_, ?_, ?_, launched⟩
      · exact Nat.le_trans few (List.length_take_le _ _)
      · exact Nat.le_trans few (List.length_take_le' _ _)
      · exact (provisioner.surveyed_of_prospect? pool found).length_le

/-- The engine refuses the second of two launches. -/
example :
    let world :=
      World.five { Script.five with runFaults := [(2, ⟨.engine, "busy", "no more room"⟩)] }
    let after := (used.pass (Pool.double "builders") 0).run world
    (launchedBy (after.2.callsSince world)).length = 2 ∧
      (used.episode ⟨Pool.double "builders", 0, world⟩).starts.map (·.candidate.key) =
        [.number 7 0] := by
  decide +kernel

end Provisioner

end RunnerFleet
