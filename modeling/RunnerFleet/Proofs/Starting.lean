import RunnerFleet.Proofs.Fetching

/-!
# The starts of a pass

What a pass did is read here off its trace alone: the containers that its calls
started, in order, belong to the first candidates, each with the time right after
its start.  However the starting ends, these are the starts that the pass enters
in the ledger, and there are no more calls than free slots.
-/

namespace RunnerFleet

/-! ## Starting one runner -/

/-- The start of a runner for a candidate, from the container that was started and the
time right after. -/
def Start.ofStarted (candidate : Candidate) (started : RunnerSpec × Float) : Start where
  candidate
  runner := started.1.name
  time := started.2

/-- How the start of a runner of a pool goes after a history: its outcome and its
calls. -/
inductive StartCourse (outside : Outside) (history : List Call) (pool : Pool) :
    Except Failure Text → List Call → Prop where
  | unreached (failure : Failure) : StartCourse outside history pool (.error failure) []
  | failed
      (runner : RunnerSpec)
      (failure : Failure)
      (ofPool : runner.pool = pool.name)
      (fails : outside.startsAt (history ++ [.run runner]) = false) :
      StartCourse outside history pool (.error failure) [.run runner]
  | started
      (runner : RunnerSpec)
      (ofPool : runner.pool = pool.name)
      (starts : outside.startsAt (history ++ [.run runner]) = true) :
      StartCourse outside history pool (.ok runner.name) [.run runner]

namespace Launcher

theorem drawSuffix_does (length : Nat) (world : World) :
    (drawSuffix length).Does world fun _ calls after =>
      calls = [] ∧ after.choices = world.choices + length := by
  induction length generalizing world with
  | zero => exact Act.Does.pure ⟨rfl, rfl⟩
  | succ length ih =>
    have drawn :
        (draw Runner.suffixAlphabet.length).Does world fun _ calls after =>
          calls = [] ∧ after.choices = world.choices + 1 :=
      ⟨[], ⟨rfl, rfl, rfl⟩, rfl, rfl⟩
    refine Act.Does.bind (drawn.mono ?_)
    rintro index _ between _ ⟨rfl, one⟩
    apply Act.Does.bind
    apply (ih between).mono
    rintro others _ after _ ⟨rfl, more⟩
    have count : after.choices = world.choices + (length + 1) := by omega
    exact Act.Does.pure ⟨rfl, count⟩

/-- To start a runner is at most one call, for a container of the pool; it succeeds
exactly if the call starts the container, and the runner has its name.  One suffix is drawn
whatever becomes of it. -/
theorem start_does
    (launcher : Launcher)
    (pool : Pool)
    (labels : List Text)
    (token : Text)
    (world : World) :
    Act.Does (launcher.start pool labels token).run world fun outcome calls after =>
      StartCourse world.outside world.history pool outcome calls ∧
        after.choices = world.choices + Runner.suffixLength := by
  refine Act.Does.attempt_bind (Act.Does.attempt_lift ((drawSuffix_does _ _).mono ?_))
  rintro suffix _ named follows ⟨rfl, drawn⟩
  refine Act.Does.attempt_bind (Act.Does.attempt_lift ((runContainer_does _ _).mono ?_))
  rintro outcome calls after _ ⟨same, made⟩
  have count : after.choices = world.choices + Runner.suffixLength := same.trans drawn
  rw [follows.outside, follows.history, List.append_nil] at made
  have ofPool := pool_spec launcher pool labels token
    (pool.name ++ "-" ++ suffix.map CodePoint.scalar)
  cases outcome with
  | error fault =>
    have course (failure : Failure) :
        StartCourse world.outside world.history pool (.error failure) calls := by
      rcases made with ⟨rfl, _⟩ | ⟨rfl, fails⟩
      · exact .unreached failure
      · exact .failed _ failure ofPool fails
    dsimp only
    split
    · exact Act.Does.pure ⟨by simpa using course _, count⟩
    · exact Act.Does.pure ⟨by simpa using course _, count⟩
  | ok done =>
    rcases made with ⟨_, impossible⟩ | ⟨rfl, starts⟩
    · cases impossible
    · refine Act.Does.attempt_bind (Act.Does.attempt_lift (Act.Does.noteAll ?_))
      exact Act.Does.pure ⟨.started _ ofPool starts, count⟩

end Launcher

/-! ## Starting runners in turn -/

/-- A runner of the pool is started, and the stop signal has not arrived. -/
def Moment.Starting (pool : Pool) (moment : Moment) (made : Call) : Prop :=
  moment.stopped = false ∧ ∃ runner, made = .run runner ∧ runner.pool = pool.name

/-- What the starting of runners for candidates comes to, from its trace: the calls
start runners of the pool, at most one call for each candidate, and the runners that
were started are those of the first candidates. -/
structure StartsCourse
    (outside : Outside)
    (moment : Moment)
    (pool : Pool)
    (candidates : List Candidate)
    (made : List Start)
    (calls : List Call) : Prop where
  starting : outside.Allows (Moment.Starting pool) moment calls
  length_le : calls.length ≤ candidates.length
  made : made = List.zipWith Start.ofStarted candidates (outside.started moment calls)

namespace StartsCourse

variable
  {outside : Outside}
  {moment : Moment}
  {pool : Pool}
  {candidates : List Candidate}
  {runner : RunnerSpec}

theorem nil : StartsCourse outside moment pool candidates [] [] where
  starting := trivial
  length_le := Nat.zero_le _
  made := by simp

/-- A call that starts no container ends the starting. -/
theorem single
    (candidate : Candidate)
    (unstopped : moment.stopped = false)
    (ofPool : runner.pool = pool.name)
    (fails : outside.startsAt (moment.history ++ [.run runner]) = false) :
    StartsCourse outside moment pool (candidate :: candidates) [] [.run runner] where
  starting := ⟨⟨unstopped, runner, rfl, ofPool⟩, trivial⟩
  length_le := by simp
  made := by simp [Outside.started, Outside.startedBy, fails]

/-- A call that starts a container serves the first candidate. -/
theorem cons
    (candidate : Candidate)
    {made : List Start}
    {calls : List Call}
    (unstopped : moment.stopped = false)
    (ofPool : runner.pool = pool.name)
    (starts : outside.startsAt (moment.history ++ [.run runner]) = true)
    (course :
      StartsCourse outside (outside.step moment (.run runner)) pool candidates made calls) :
    StartsCourse outside moment pool (candidate :: candidates)
      (⟨candidate, runner.name, (outside.step moment (.run runner)).clock⟩ :: made)
      (.run runner :: calls) where
  starting := ⟨⟨unstopped, runner, rfl, ofPool⟩, course.starting⟩
  length_le := Nat.succ_le_succ course.length_le
  made := by
    rw [course.made]
    simp [Outside.started, Outside.startedBy, starts, Start.ofStarted]

end StartsCourse

namespace Provisioner

variable (provisioner : Provisioner) (pool : Pool)

theorem startEach_does
    (token : Text)
    (labels : List Text)
    (candidates : List Candidate)
    (world : World) :
    (provisioner.startEach pool token labels candidates).Does world fun starts calls _ =>
      StartsCourse world.outside world.moment pool candidates starts.made calls := by
  induction candidates generalizing world with
  | nil => exact Act.Does.pure .nil
  | cons candidate rest ih =>
    refine Act.Does.bind (Act.Does.isStopped ?_)
    cases stopped : world.stopped with
    | true => exact Act.Does.pure .nil
    | false =>
      apply Act.Does.bind
      apply (provisioner.launcher.start_does pool labels token world).mono
      rintro outcome calls after follows ⟨course, _⟩
      cases course with
      | unreached failure => exact Act.Does.pure .nil
      | failed runner failure ofPool fails =>
        exact Act.Does.pure (.single candidate stopped ofPool fails)
      | started runner ofPool starts =>
        refine Act.Does.bind (Act.Does.now (Act.Does.bind (Act.Does.noteAll ?_)))
        apply Act.Does.bind
        apply (ih _).mono
        intro more calls last _ course
        -- The log is no part of a moment, so the rest goes on right after the call.
        have course : StartsCourse after.outside after.moment pool rest more.made calls :=
          course
        rw [follows.outside, follows.moment] at course
        apply Act.Does.pure
        rw [follows.clock]
        simpa [Starts.cons] using course.cons candidate stopped ofPool starts

/-- The starting of runners begins only with a credential, and without one nothing is
called. -/
theorem startAll_does
    (labels : List Text)
    (candidates : List Candidate)
    (world : World) :
    (provisioner.startAll pool labels candidates).Does world fun starts calls _ =>
      StartsCourse world.outside world.moment pool candidates starts.made calls := by
  simp only [startAll]
  split
  · exact Act.Does.pure .nil
  · refine Act.Does.bind (Act.Does.get ?_)
    split
    · exact Act.Does.pure .nil
    · exact Act.Does.pure .nil
    · split
      · exact Act.Does.pure .nil
      · exact provisioner.startEach_does pool _ labels candidates world

end Provisioner

/-! ## Passes -/

/-- The starts that a trace makes of a prospect. -/
def Prospect.starts
    (prospect : Prospect)
    (started : List (RunnerSpec × Float)) : List Start :=
  List.zipWith Start.ofStarted prospect.candidates started

/-- The starts that were made for the first candidates are those that the trace makes of
the whole prospect. -/
theorem StartsCourse.made_eq_starts
    {outside : Outside}
    {moment : Moment}
    {pool : Pool}
    {prospect : Prospect}
    {slots : Nat}
    {made : List Start}
    {calls : List Call}
    (course :
      StartsCourse outside moment pool (prospect.candidates.take slots) made calls) :
    made = prospect.starts (outside.started moment calls) := by
  have short : (outside.started moment calls).length ≤ slots :=
    calc
      (outside.started moment calls).length
          ≤ calls.countP Call.isRun := Outside.length_started_le calls
      _ ≤ calls.length := List.countP_le_length
      _ ≤ (prospect.candidates.take slots).length := course.length_le
      _ ≤ slots := List.length_take_le _ _
  have fits : (prospect.starts (outside.started moment calls)).length ≤ slots := by
    simp only [Prospect.starts, List.length_zipWith]
    omega
  calc
    made
        = List.zipWith Start.ofStarted (prospect.candidates.take slots)
            ((outside.started moment calls).take slots) := by
          rw [course.made, List.take_of_length_le short]
    _ = (prospect.starts (outside.started moment calls)).take slots :=
          (List.take_zipWith ..).symm
    _ = prospect.starts (outside.started moment calls) := List.take_of_length_le fits

/-- A request is made or a runner of the pool is started, and the stop signal has not
arrived. -/
def Moment.Providing (pool : Pool) (moment : Moment) (made : Call) : Prop :=
  moment.Asking made ∨ moment.Starting pool made

theorem Outside.Allows.no_run
    {outside : Outside}
    {moment : Moment}
    {calls : List Call}
    (asks : outside.Allows Moment.Asking moment calls) :
    ∀ made ∈ calls, made.isRun = false := by
  refine asks.forall_mem ?_
  rintro _ _ ⟨_, request, rfl⟩
  rfl

theorem Outside.Allows.countP_isRun_eq_zero
    {outside : Outside}
    {moment : Moment}
    {calls : List Call}
    (asks : outside.Allows Moment.Asking moment calls) :
    calls.countP Call.isRun = 0 := by
  apply List.countP_eq_zero.mpr
  intro made member
  simp [asks.no_run made member]

theorem noteDeparted_does (departed : List Entry) (world : World) :
    (noteDeparted departed).Does world fun _ calls after =>
      calls = [] ∧ after.choices = world.choices := by
  simp only [noteDeparted]
  split
  · exact Act.Does.pure ⟨rfl, rfl⟩
  · exact Act.Does.noteAll ⟨rfl, rfl⟩

/-- How a pass ends that made a decision, by what ended the starting of runners early.  It fails
all the same if the number of free slots is too long for the line of the log that closes it. -/
inductive PassEnd.Concludes (decision : Decision) : Option StartsEnd → PassEnd → Prop where
  | finished
      (short : Number.isWritable decision.slots = true) :
      Concludes decision none (.finished decision)
  | unwritable
      (long : Number.isWritable decision.slots = false) :
      Concludes decision none (.failed .tooManyDigits)
  | fault (fault : StartFault) :
      Concludes decision (some (.fault fault)) (.startFailed fault decision)
  | failure (failure : Failure) :
      Concludes decision (some (.failure failure)) (.failed failure)

namespace Provisioner

variable (provisioner : Provisioner) (pool : Pool)

/-- What a pass finds before it starts runners, if it gets that far: there is a free
slot, the fetch succeeds, and so does the picking of candidates. -/
def prospect? (active : Int) (world : World) : Option Prospect :=
  if freeSlots pool active = 0 then none
  else ((provisioner.prospect pool).run.run world).1.toOption

/-- The ledger after a pass that got as far as a prospect and made the given starts. -/
def ledgerAfter (prospect : Prospect) (starts : List Start) : Ledger :=
  (provisioner.ledger.enterStarts starts).retain (jobKeys prospect.jobs)

/-- The decision of a pass over a prospect that made some starts. -/
def decisionOf
    (active : Int)
    (prospect : Prospect)
    (starts : List Start) : Decision where
  active
  slots := freeSlots pool active
  labels := provisioner.offered pool
  queued := prospect.jobs
  candidates := prospect.candidates
  starts
  evicted :=
    ((provisioner.ledger.enterStarts starts).departed (jobKeys prospect.jobs)).length

/-- The part of a pass that starts runners makes the calls of the starts and no others, and
ends as these do. -/
theorem provide_parts
    {active : Int}
    {prospect : Prospect}
    {world : World}
    {condition : PassEnd × Ledger → List Call → World → Prop}
    (started :
      (provisioner.startAll pool (provisioner.offered pool)
          (prospect.candidates.take (freeSlots pool active))).Does world
        fun starts calls after =>
          ∀ ending noted,
            ending.Concludes (provisioner.decisionOf pool active prospect starts.made)
                starts.ended →
              after.Follows [] noted →
                noted.choices = after.choices →
                  condition (ending, provisioner.ledgerAfter prospect starts.made) calls noted) :
    (provisioner.provide pool active prospect).Does world condition := by
  apply Act.Does.bind
  apply started.mono
  rintro ⟨made, ended⟩ calls after _ concluded
  apply Act.Does.bind
  apply (noteDeparted_does _ after).mono
  rintro _ _ noted follows ⟨rfl, same⟩
  cases ended with
  | some ending =>
    cases ending with
    | fault fault =>
      apply Act.Does.pure
      rw [List.append_nil, List.append_nil]
      exact concluded _ noted (.fault fault) follows same
    | failure failure =>
      apply Act.Does.pure
      rw [List.append_nil, List.append_nil]
      exact concluded _ noted (.failure failure) follows same
  | none =>
    dsimp only
    split
    next short =>
      refine Act.Does.bind (Act.Does.noteAll (Act.Does.pure ?_))
      rw [List.append_nil, List.append_nil, List.append_nil]
      exact concluded _ _ (.finished short) (follows.trans ⟨rfl, rfl, rfl⟩) same
    next long =>
      apply Act.Does.pure
      rw [List.append_nil, List.append_nil]
      exact concluded _ noted (.unwritable (Bool.eq_false_iff.mpr long)) follows same

/-- Whatever ends the part of a pass that starts runners, the ledger afterwards is
told by its trace. -/
theorem provide_does (active : Int) (prospect : Prospect) (world : World) :
    (provisioner.provide pool active prospect).Does world fun answer calls _ =>
      world.outside.Allows (Moment.Starting pool) world.moment calls ∧
        calls.length ≤ (prospect.candidates.take (freeSlots pool active)).length ∧
          answer.2 =
            provisioner.ledgerAfter prospect
              (prospect.starts (world.outside.started world.moment calls)) := by
  apply provisioner.provide_parts pool
  apply (provisioner.startAll_does pool _ _ world).mono
  intro starts calls after _ course ending noted _ _ _
  exact ⟨course.starting, course.length_le, by rw [course.made_eq_starts]⟩

/-- A pass without a free slot makes no call; its only work is a line of the log. -/
theorem pass_of_full {active : Int} (full : freeSlots pool active = 0) :
    provisioner.pass pool active =
      if isShowable pool active then do
        note .info
          ("Pool " ++ pool.name ++ ": max active runners reached (" ++ toString active ++ "/"
            ++ toString pool.capacity ++ "), skipping")
        return (.finished { active, slots := 0 }, provisioner.ledger)
      else
        return (.failed .tooManyDigits, provisioner.ledger) := by
  rw [pass, if_pos full]

theorem pass_of_free {active : Int} (free : freeSlots pool active ≠ 0) :
    provisioner.pass pool active =
      (do
        match ← (provisioner.prospect pool).run with
        | .error failure => return (.failed failure, provisioner.ledger)
        | .ok prospect => provisioner.provide pool active prospect) := by
  rw [pass]
  exact if_neg free

/-- What a pass does, by how far it gets: it has no free slot, or it fails with only asking done,
or it asks and goes on with what it found. -/
theorem pass_parts
    {active : Int}
    {world : World}
    {condition : PassEnd × Ledger → List Call → World → Prop}
    (full :
      freeSlots pool active = 0 →
        provisioner.prospect? pool active world = none →
          ∀ after,
            after.choices = world.choices →
              condition (.finished { active, slots := 0 }, provisioner.ledger) [] after)
    (failed :
      ∀ failure asked after,
        provisioner.prospect? pool active world = none →
          world.outside.Allows Moment.Asking world.moment asked →
            after.choices = world.choices →
              condition (.failed failure, provisioner.ledger) asked after)
    (reached :
      let between := ((provisioner.prospect pool).run.run world).2
      ∀ prospect asked,
        provisioner.prospect? pool active world = some prospect →
          world.outside.Allows Moment.Asking world.moment asked →
            world.Follows asked between →
              between.choices = world.choices →
                (provisioner.provide pool active prospect).Does between
                  fun answer calls after => condition answer (asked ++ calls) after) :
    (provisioner.pass pool active).Does world condition := by
  by_cases free : freeSlots pool active = 0
  · have noProspect : provisioner.prospect? pool active world = none := by
      rw [prospect?, if_pos free]
    rw [provisioner.pass_of_full pool free]
    cases isShowable pool active with
    | true => exact Act.Does.bind (Act.Does.noteAll (Act.Does.pure (full free noProspect _ rfl)))
    | false => exact Act.Does.pure (failed _ [] world noProspect trivial rfl)
  · rw [provisioner.pass_of_free pool free]
    rcases provisioner.prospect_asksUntil pool world with ⟨⟨asked, follows, asks⟩, choices⟩
    refine Act.Does.bind ⟨asked, follows, ?_⟩
    cases found : ((provisioner.prospect pool).run.run world).1 with
    | error failure =>
      apply Act.Does.pure
      rw [List.append_nil]
      exact failed failure asked _ (by simp [prospect?, free, found, Except.toOption]) asks choices
    | ok prospect =>
      exact reached prospect asked (by simp [prospect?, free, found, Except.toOption]) asks
        follows choices

/-- A pass that does not get as far as a prospect only asks and leaves the ledger as
it is; any other pass tries to start runners for at most as many candidates as there
are free slots. -/
theorem pass_does (active : Int) (world : World) :
    (provisioner.pass pool active).Does world fun answer calls after =>
      match provisioner.prospect? pool active world with
      | none =>
        answer.2 = provisioner.ledger ∧
          world.outside.Allows Moment.Asking world.moment calls ∧
            after.choices = world.choices
      | some prospect =>
        world.outside.Allows (Moment.Providing pool) world.moment calls ∧
          calls.countP Call.isRun ≤
              (prospect.candidates.take (freeSlots pool active)).length ∧
            answer.2 =
              provisioner.ledgerAfter prospect
                (prospect.starts (world.outside.started world.moment calls)) := by
  refine provisioner.pass_parts pool ?full ?failed ?reached
  case full =>
    intro _ none after choices
    rw [none]
    exact ⟨rfl, trivial, choices⟩
  case failed =>
    intro failure asked after none asks choices
    rw [none]
    exact ⟨rfl, asks, choices⟩
  case reached =>
    intro between prospect asked found asks follows _
    apply (provisioner.provide_does pool active prospect between).mono
    rintro answer calls after _ ⟨starting, few, ledger⟩
    rw [follows.outside, follows.moment] at starting ledger
    have noStart : world.outside.started world.moment asked = [] :=
      Outside.started_eq_nil asks.no_run
    have runs :
        (asked ++ calls).countP Call.isRun ≤
          (prospect.candidates.take (freeSlots pool active)).length := by
      calc
        (asked ++ calls).countP Call.isRun
            = calls.countP Call.isRun := by
              rw [List.countP_append, asks.countP_isRun_eq_zero, Nat.zero_add]
        _ ≤ calls.length := List.countP_le_length
        _ ≤ (prospect.candidates.take (freeSlots pool active)).length := few
    rw [found]
    refine ⟨Outside.allows_append.mpr ⟨?_, ?_⟩, runs, ?_⟩
    · exact asks.mono fun _ _ => Or.inl
    · exact starting.mono fun _ _ => Or.inr
    · rw [ledger, Outside.started_append, noStart, List.nil_append]

end Provisioner

end RunnerFleet
