import RunnerFleet.Proofs.Capacity
import RunnerFleet.Proofs.Mirroring

/-!
# Pools do not influence each other

Two runs over the same pools may differ in everything that concerns other pools than one: what
their forges reply, which containers they have, whether these can be started.  In both runs the
one pool makes alike calls in every round, starts runners for the same jobs, and its ledger and
its status are the same, up to the random part of its runners' names.

Between two visits to the pool the others do whatever they like.  They start no container for
it and enter nothing under its name, so its next visit begins beside that of the other run, and
a visit that begins so is mirrored.
-/

namespace RunnerFleet

variable {pool : Pool}

/-! ## Between two visits -/

@[simp]
theorem ofPool_ofPool (name : Text) (containers : List Container) :
    ofPool name (ofPool name containers) = ofPool name containers := by
  simp [ofPool]

namespace Outside

/-- Whether time passes during a call before the stop signal: a wait that is refused does not
take place. -/
def takesPlace (outside : Outside) : Call → Bool
  | .wait seconds => !outside.refusesWait false seconds
  | _ => true

/-- What becomes of containers by themselves during calls after a history, all before the stop
signal. -/
def settled (outside : Outside) : List Call → List Call → List Container → List Container
  | _, [], containers => containers
  | history, made :: rest, containers =>
    outside.settled (history ++ [made]) rest
      (if outside.takesPlace made then outside.settle (history ++ [made]) containers
        else containers)

variable {outside : Outside} {name : Text}

/-- A call that starts no container for a pool leaves to its containers what becomes of them by
themselves. -/
theorem ofPool_step
    (apart : outside.KeepsApart name)
    {moment : Moment}
    (working : moment.stopped = false)
    {made : Call}
    (other : made.startsFor name = false)
    {containers : List Container}
    (same : ofPool name moment.containers = ofPool name containers) :
    ofPool name (outside.step moment made).containers =
      ofPool name
        (if outside.takesPlace made then outside.settle (moment.history ++ [made]) containers
          else containers) := by
  have settled :
      ofPool name (outside.settle (moment.history ++ [made]) moment.containers) =
        ofPool name (outside.settle (moment.history ++ [made]) containers) := by
    rw [apart, same, ← apart]
  cases made with
  | ask request => exact settled
  | list pool => exact settled
  | run runner =>
    have foreign : (runner.pool == name) = false := other
    rw [if_pos (show outside.takesPlace (.run runner) = true from rfl)]
    cases starts : outside.startsAt (moment.history ++ [.run runner]) with
    | true => simpa [step, lapse, starts, ofPool, foreign] using settled
    | false => simpa [step, lapse, starts] using settled
  | wait seconds =>
    rw [step, working, takesPlace]
    cases outside.refusesWait false seconds with
    | true => exact same
    | false => exact settled

theorem ofPool_replay
    (apart : outside.KeepsApart name)
    {moment : Moment}
    {calls : List Call}
    (working : (outside.replay moment calls).stopped = false)
    (others : ∀ made ∈ calls, made.startsFor name = false)
    {containers : List Container}
    (same : ofPool name moment.containers = ofPool name containers) :
    ofPool name (outside.replay moment calls).containers =
      ofPool name (outside.settled moment.history calls containers) := by
  induction calls generalizing moment containers with
  | nil => exact same
  | cons made rest ih =>
    rcases List.forall_mem_cons.mp others with ⟨first, later⟩
    have stepped := ofPool_step apart (working_of_replay working) first same
    have ended := ih working later stepped
    rw [history_step] at ended
    exact ended

end Outside

/-- A visit starts no container for a pool of another name. -/
theorem Visit.calls_foreign
    {visit : Visit}
    {name : Text}
    (foreign : visit.pool.name ≠ name) :
    ∀ made ∈ visit.calls, made.startsFor name = false := by
  have course := visit.course
  generalize visit.calls = calls at course
  cases course with
  | unlisted => exact List.forall_mem_nil _
  | listed providing few =>
    refine List.forall_mem_cons.mpr ⟨rfl, providing.forall_mem ?_⟩
    rintro moment made (⟨_, request, rfl⟩ | ⟨_, runner, rfl, ofPool⟩)
    · rfl
    · exact beq_false_of_ne (ofPool ▸ foreign)

/-- A visit to a pool, and the world that the visit before it left, or in which the run
began. -/
structure Stay where
  since : World
  visit : Visit

namespace Stay

/-- The calls between the visit before and this one. -/
def between (stay : Stay) : List Call :=
  stay.visit.world.callsSince stay.since

/-- The visits to one pool among those of a run. -/
def among (name : Text) : World → List Visit → List Stay
  | _, [] => []
  | since, visit :: rest =>
    if visit.pool.name == name then ⟨since, visit⟩ :: among name visit.outcome.2 rest
    else among name since rest

/-- Two stays of a pool that differ in nothing that concerns the pool.  By themselves the same
becomes of its containers up to the visits; these begin at the same time, with the engine in
reach of both or of neither; as long as their calls are alike, these come to the same; and no
stop signal arrives. -/
structure FacesAlike (pool : Pool) (first second : Stay) : Prop where
  settling :
    ∀ containers,
      ofPool pool.name
          (second.since.outside.settled second.since.history second.between
            (ofPool pool.name containers)) =
        ofPool pool.name
          (first.since.outside.settled first.since.history first.between
            (ofPool pool.name containers))
  clock : second.visit.world.clock = first.visit.world.clock
  refusal : second.visit.world.refusal? = first.visit.world.refusal?
  serve :
    Outside.ServeAlike pool first.visit.world.outside second.visit.world.outside
      first.visit.world.moment second.visit.world.moment first.visit.calls second.visit.calls
  working : first.visit.outcome.2.stopped = false
  alsoWorking : second.visit.outcome.2.stopped = false

end Stay

/-- The stays of a pool in a run, each with what the one before it left of the pool.  Between
two of them no container is started for the pool. -/
inductive Stays (pool : Pool) : Provisioner → PoolStatus → World → List Stay → Prop where
  | nil
      {provisioner : Provisioner}
      {status : PoolStatus}
      {since : World} :
      Stays pool provisioner status since []
  | cons
      {provisioner : Provisioner}
      {status : PoolStatus}
      {since world : World}
      {calls : List Call}
      {stays : List Stay}
      (follows : since.Follows calls world)
      (foreign : ∀ made ∈ calls, made.startsFor pool.name = false)
      (rest :
        Stays pool (Visit.leftProvisioner ⟨pool, provisioner, status, world⟩)
          (Visit.leftStatus ⟨pool, provisioner, status, world⟩)
          (Visit.outcome ⟨pool, provisioner, status, world⟩).2 stays) :
      Stays pool provisioner status since (⟨since, ⟨pool, provisioner, status, world⟩⟩ :: stays)

/-- A course of visits holds the stays of every pool that the fleet has an entry for. -/
theorem Fleet.Course.stays
    {fleet last : Fleet}
    {world after : World}
    {visits : List Visit}
    (course : Course fleet world visits last after)
    (named : ∀ visit ∈ visits, visit.pool.name = pool.name → visit.pool = pool)
    {provisioner : Provisioner}
    (provided : fleet.provisioners.lookup pool.name = some provisioner)
    {status : PoolStatus}
    (known : fleet.statuses.lookup pool.name = some status)
    {since : World}
    {calls : List Call}
    (follows : since.Follows calls world)
    (foreign : ∀ made ∈ calls, made.startsFor pool.name = false) :
    Stays pool provisioner status since (Stay.among pool.name since visits) := by
  induction course generalizing since calls provisioner status with
  | nil => exact .nil
  | idle onward waits _ ih =>
    refine ih named provided known (follows.trans onward) ?_
    refine List.forall_mem_append.mpr ⟨foreign, fun made member => ?_⟩
    have waiting := waits made member
    cases made with
    | wait seconds => rfl
    | ask | list | run => cases waiting
  | @visit fleet _ visit _ _ held shown _ ih =>
    rcases List.forall_mem_cons.mp named with ⟨own, others⟩
    rw [Stay.among]
    by_cases same : visit.pool.name = pool.name
    · rw [if_pos (beq_iff_eq.mpr same)]
      rcases visit with ⟨_, _, _, world⟩
      obtain rfl := own same
      rw [provided] at held
      rw [known] at shown
      cases held
      cases shown
      refine .cons follows foreign (ih others ?_ ?_ (.refl _) (List.forall_mem_nil _))
      · exact Table.lookup_put_self _ _ _
      · exact Table.lookup_put_self _ _ _
    · have differs : ¬ (visit.pool.name == pool.name) = true := by simpa using same
      rw [if_neg differs]
      refine ih others ?_ ?_ (follows.trans visit.follows) ?_
      · exact (Table.lookup_put_of_ne (Ne.symm same) _ _).trans provided
      · exact (Table.lookup_put_of_ne (Ne.symm same) _ _).trans known
      · exact List.forall_mem_append.mpr ⟨foreign, visit.calls_foreign same⟩

/-- The stays of a run are led to from its start. -/
theorem Stays.leads
    {provisioner : Provisioner}
    {status : PoolStatus}
    {since : World}
    {stays : List Stay}
    (course : Stays pool provisioner status since stays) :
    ∀ stay ∈ stays, since.Leads stay.since ∧ stay.since.Leads stay.visit.world := by
  induction course with
  | nil => exact List.forall_mem_nil _
  | @cons provisioner status _ world _ _ follows _ _ ih =>
    rw [List.forall_mem_cons]
    refine ⟨⟨World.leads_isCourse.refl _, _, follows⟩, fun stay later => ?_⟩
    rcases ih stay later with ⟨since, leads⟩
    have visit := Visit.follows ⟨pool, provisioner, status, world⟩
    exact ⟨World.leads_isCourse.trans ⟨_, follows.trans visit⟩ since, leads⟩

namespace Stay.FacesAlike

variable
  {provisioner : Provisioner}
  {status other : PoolStatus}
  {here there world opposite : World}
  (face :
    FacesAlike pool ⟨here, ⟨pool, provisioner, status, world⟩⟩
      ⟨there, ⟨pool, provisioner, other, opposite⟩⟩)

include face

theorem parallel :
    World.Parallel pool world opposite (Visit.calls ⟨pool, provisioner, status, world⟩)
      (Visit.calls ⟨pool, provisioner, other, opposite⟩)
      (Visit.outcome ⟨pool, provisioner, status, world⟩).2
      (Visit.outcome ⟨pool, provisioner, other, opposite⟩).2 where
  follows := Visit.follows ⟨pool, provisioner, status, world⟩
  alsoFollows := Visit.follows ⟨pool, provisioner, other, opposite⟩
  serve := face.serve
  working := face.working
  alsoWorking := face.alsoWorking

/-- What other pools do in the meantime leaves the worlds beside each other. -/
theorem facing
    (beside : World.Beside pool here there)
    {calls others : List Call}
    (follows : here.Follows calls world)
    (foreign : ∀ made ∈ calls, made.startsFor pool.name = false)
    (alsoFollows : there.Follows others opposite)
    (alsoForeign : ∀ made ∈ others, made.startsFor pool.name = false) :
    World.Facing pool world opposite where
  limits := by rw [follows.outside, alsoFollows.outside, beside.limits]
  containers := by
    have settling := face.settling here.containers
    have mine : Stay.between ⟨here, ⟨pool, provisioner, status, world⟩⟩ = calls :=
      follows.callsSince
    have theirs : Stay.between ⟨there, ⟨pool, provisioner, other, opposite⟩⟩ = others :=
      alsoFollows.callsSince
    rw [mine, theirs] at settling
    have working := face.parallel.follows.working face.working
    have alsoWorking := face.parallel.alsoFollows.working face.alsoWorking
    have kept :
        ofPool pool.name (here.outside.replay here.moment calls).containers =
          ofPool pool.name
            (here.outside.settled here.history calls (ofPool pool.name here.containers)) :=
      Outside.ofPool_replay beside.apart (follows.stopped.symm.trans working) foreign
        (ofPool_ofPool _ _).symm
    have alsoKept :
        ofPool pool.name (there.outside.replay there.moment others).containers =
          ofPool pool.name
            (there.outside.settled there.history others (ofPool pool.name here.containers)) :=
      Outside.ofPool_replay beside.alsoApart (alsoFollows.stopped.symm.trans alsoWorking)
        alsoForeign (beside.containers.trans (ofPool_ofPool _ _).symm)
    rw [follows.containers, alsoFollows.containers, kept, alsoKept]
    exact settling
  environment := by rw [follows.environment, alsoFollows.environment, beside.environment]
  apart := by rw [follows.outside]; exact beside.apart
  alsoApart := by rw [alsoFollows.outside]; exact beside.alsoApart
  clock := face.clock
  refusal := face.refusal

end Stay.FacesAlike

/-- Stays that begin alike and differ in nothing that concerns the pool go alike. -/
theorem Stays.alike
    {provisioner : Provisioner}
    {status other : PoolStatus}
    {here there : World}
    {stays others : List Stay}
    (first : Stays pool provisioner status here stays)
    (second : Stays pool provisioner other there others)
    (same : other.cleared = status.cleared)
    (beside : World.Beside pool here there)
    (faces : List.Forall₂ (Stay.FacesAlike pool) stays others) :
    List.Forall₂ (fun stay other => Visit.Alike pool stay.visit other.visit) stays others := by
  induction first generalizing other there others with
  | nil =>
    cases faces
    exact .nil
  | cons follows foreign _ ih =>
    cases faces with
    | cons face faces =>
      cases second with
      | cons alsoFollows alsoForeign rest =>
        have facing := face.facing beside follows foreign alsoFollows alsoForeign
        rcases Visit.mirrored same facing face.parallel with ⟨alike, left, after⟩
        rw [left] at rest
        exact .cons alike (ih rest alike.status.cleared after faces)

/-! ## Whole runs -/

/-- The stays of a pool in a patrol. -/
def patrolStays
    (settings : Settings)
    (pools : List Pool)
    (launcher : Launcher)
    (limit : Option Int)
    (world : World)
    (name : Text) : List Stay :=
  Stay.among name world (patrolVisits settings pools launcher limit world).flatten

theorem Stay.visits_among (name : Text) (since : World) (visits : List Visit) :
    (among name since visits).map (·.visit) = visits.filter (·.pool.name == name) := by
  induction visits generalizing since with
  | nil => rfl
  | cons visit rest ih =>
    rw [among, List.filter_cons]
    split
    · rw [List.map_cons, ih]
    · exact ih since

/-- Of pools with different names one has a name. -/
theorem filter_name_eq_singleton
    {pools : List Pool}
    (distinct : (pools.map (·.name)).Nodup)
    (member : pool ∈ pools) :
    pools.filter (·.name == pool.name) = [pool] := by
  induction pools with
  | nil => cases member
  | cons first rest ih =>
    rw [List.map_cons, List.nodup_cons] at distinct
    rcases distinct with ⟨new, others⟩
    rcases List.mem_cons.mp member with rfl | later
    · have none : rest.filter (·.name == pool.name) = [] := by
        rw [List.filter_eq_nil_iff]
        intro other listed same
        exact new (beq_iff_eq.mp same ▸ List.mem_map_of_mem listed)
      rw [List.filter_cons, if_pos (beq_self_eq_true _), none]
    · have differs : ¬ (first.name == pool.name) = true := by
        intro same
        exact new (beq_iff_eq.mp same ▸ List.mem_map_of_mem later)
      rw [List.filter_cons, if_neg differs, ih others later]

/-- In a table that holds the same under the name of every pool, it is found under each. -/
theorem lookup_map_const
    {Content : Type}
    {content : Content}
    {pools : List Pool}
    (member : pool ∈ pools) :
    (pools.map fun pool => (pool.name, content)).lookup pool.name = some content := by
  induction pools with
  | nil => cases member
  | cons first rest ih =>
    rw [List.map_cons, List.lookup_cons]
    split
    · rfl
    next differs =>
      rcases List.mem_cons.mp member with rfl | later
      · rw [beq_self_eq_true] at differs
        cases differs
      · exact ih later

/-- Rounds that visit one pool once each visit it as often as there are rounds. -/
theorem map_filter_eq_singletons
    {rounds : List (List Visit)}
    {name : Text}
    (once : ∀ visits ∈ rounds, ∃ visit, visits.filter (·.pool.name == name) = [visit]) :
    rounds.map (·.filter (·.pool.name == name)) =
      (rounds.flatten.filter (·.pool.name == name)).map ([·]) := by
  induction rounds with
  | nil => rfl
  | cons visits rest ih =>
    rcases List.forall_mem_cons.mp once with ⟨⟨visit, first⟩, others⟩
    rw [List.map_cons, List.flatten_cons, List.filter_append, List.map_append, first,
      ih others]
    rfl

section

variable
  (settings : Settings)
  {pools : List Pool}
  (distinct : (pools.map (·.name)).Nodup)

include distinct

/-- Every round of a patrol visits every pool. -/
theorem pools_of_patrol (launcher : Launcher) (limit : Option Int) (world : World) :
    ∀ visits ∈ patrolVisits settings pools launcher limit world,
      visits.map (·.pool) = pools := by
  have told := patrol_told settings distinct launcher limit world
  generalize patrolVisits settings pools launcher limit world = rounds at told
  cases told with
  | failed => exact List.forall_mem_nil _
  | ran _ _ _ whole => exact whole

variable
  (member : pool ∈ pools)
  (launcher : Launcher)
  (limit : Option Int)
  (world : World)

include member

/-- Every round of a patrol holds one stay of a pool. -/
theorem rounds_of_patrol :
    (patrolVisits settings pools launcher limit world).map
        (·.filter (·.pool.name == pool.name)) =
      (patrolStays settings pools launcher limit world pool.name).map ([·.visit]) := by
  have stays := Stay.visits_among pool.name world
    (patrolVisits settings pools launcher limit world).flatten
  have singles := congrArg (List.map ([·])) stays
  rw [List.map_map] at singles
  refine Eq.trans ?_ singles.symm
  apply map_filter_eq_singletons
  intro visits listed
  have whole := pools_of_patrol settings distinct launcher limit world visits listed
  have one : (visits.filter (·.pool.name == pool.name)).map (·.pool) = [pool] := by
    rw [← filter_name_eq_singleton distinct member, ← whole, List.filter_map]
    rfl
  rcases List.map_eq_singleton_iff.mp one with ⟨visit, single, _⟩
  exact ⟨visit, single⟩

/-- The stays of a pool begin where the patrol does, with the provisioner made for the pool and
a blank status. -/
theorem patrolStays_stays :
    patrolStays settings pools launcher limit world pool.name = [] ∨
      ∃ provisioners provisioner,
        Provisioner.ofPools settings world.environment launcher pools = .ok provisioners ∧
          provisioners.lookup pool.name = some provisioner ∧
            Stays pool provisioner {} world
              (patrolStays settings pools launcher limit world pool.name) := by
  have told := patrol_told settings distinct launcher limit world
  rw [patrolStays]
  generalize patrolVisits settings pools launcher limit world = rounds at told
  cases told with
  | failed => exact .inl rfl
  | @ran provisioners _ _ _ made _ course whole =>
    have names := Provisioner.names_ofPools distinct made
    have known : pool.name ∈ provisioners.map (·.1) := by
      rw [names]
      exact List.mem_map_of_mem member
    rcases Table.exists_lookup_of_mem known with ⟨provisioner, provided⟩
    have shown : (Fleet.start pools provisioners).statuses.lookup pool.name = some {} := by
      rcases Fleet.start_covers names distinct with ⟨_, blank⟩
      rw [blank]
      exact lookup_map_const member
    have own :
        ∀ visit ∈ rounds.flatten, visit.pool.name = pool.name → visit.pool = pool := by
      intro visit listed same
      rcases List.mem_flatten.mp listed with ⟨visits, round, visited⟩
      have among : visit.pool ∈ pools := by
        rw [← whole visits round]
        exact List.mem_map_of_mem visited
      exact List.inj_on_of_nodup_map distinct among member same
    have stays := course.stays own provided shown (.refl _) (List.forall_mem_nil _)
    exact .inr ⟨provisioners, provisioner, made, provided, stays⟩

theorem patrolStays_leads :
    ∀ stay ∈ patrolStays settings pools launcher limit world pool.name,
      world.Leads stay.since ∧ stay.since.Leads stay.visit.world := by
  rcases patrolStays_stays settings distinct member launcher limit world with
    none | ⟨_, _, _, _, stays⟩
  · rw [none]
    exact List.forall_mem_nil _
  · exact stays.leads

end

/-- A pool is undisturbed by others.  A patrol goes as its visits tell, one to every pool in
every round.  Of two patrols whose worlds hold the same variables and the same containers of
one pool, and that face this pool alike in every one of its visits, the visits to it make alike
calls, start runners for the same jobs in the same order, and leave the same ledger and, up to
the names of runners in the error, the same status. -/
theorem patrol_undisturbed
    {settings : Settings}
    {pools : List Pool}
    {launcher : Launcher}
    {limit : Option Int}
    (distinct : (pools.map (·.name)).Nodup)
    (member : pool ∈ pools)
    {first second : World}
    (beside : World.Beside pool first second)
    (faces :
      List.Forall₂ (Stay.FacesAlike pool)
        (patrolStays settings pools launcher limit first pool.name)
        (patrolStays settings pools launcher limit second pool.name)) :
    (∀ world,
        PatrolTold settings pools launcher limit world
            (patrolVisits settings pools launcher limit world) ∧
          (patrolVisits settings pools launcher limit world).map
              (·.filter (·.pool.name == pool.name)) =
            (patrolStays settings pools launcher limit world pool.name).map ([·.visit])) ∧
      List.Forall₂ (fun stay other => Visit.Alike pool stay.visit other.visit)
        (patrolStays settings pools launcher limit first pool.name)
        (patrolStays settings pools launcher limit second pool.name) := by
  refine ⟨fun world =>
    ⟨patrol_told settings distinct launcher limit world,
      rounds_of_patrol settings distinct member launcher limit world⟩, ?_⟩
  have begun := patrolStays_stays settings distinct member launcher limit first
  have alsoBegun := patrolStays_stays settings distinct member launcher limit second
  generalize patrolStays settings pools launcher limit first pool.name = stays at *
  generalize patrolStays settings pools launcher limit second pool.name = others at *
  rcases begun with rfl | ⟨_, provisioner, made, own, stays⟩
  · cases faces
    exact .nil
  · rcases alsoBegun with rfl | ⟨_, _, alsoMade, alsoOwn, others⟩
    · cases faces
      exact .nil
    · rw [beside.environment, made] at alsoMade
      cases alsoMade
      cases own.symm.trans alsoOwn
      exact stays.alike others rfl beside faces

/-! ## Two runs with different testers -/

/-- An outside without trouble for a pool: nothing happens by itself, no time passes, and
neither the engine nor a start of the pool's runners fails. -/
structure Outside.Calm (outside : Outside) (name : Text) : Prop where
  settle : ∀ history containers, outside.settle history containers = containers
  clockAfter : ∀ history clock, outside.clockAfter history clock = clock
  connectFault : ∀ history, outside.connectFault history = none
  listFault : ∀ history, outside.listFault history = none
  runFault :
    ∀ history (runner : RunnerSpec),
      runner.pool = name → outside.runFault (history ++ [.run runner]) = none

namespace Outside.Calm

variable {outside first second : Outside} {name : Text}

theorem keepsApart (calm : outside.Calm name) : outside.KeepsApart name := by
  intro history containers
  rw [calm.settle, calm.settle, ofPool_ofPool]

theorem settled
    (calm : outside.Calm name)
    (history calls : List Call)
    (containers : List Container) :
    outside.settled history calls containers = containers := by
  induction calls generalizing history with
  | nil => rfl
  | cons made rest ih =>
    rw [Outside.settled, calm.settle, ite_self]
    exact ih _

theorem clock_step (calm : outside.Calm name) (moment : Moment) (made : Call) :
    (outside.step moment made).clock = moment.clock := by
  cases made with
  | ask request => exact calm.clockAfter _ _
  | list pool => exact calm.clockAfter _ _
  | run runner =>
    rw [step]
    split
    · exact calm.clockAfter _ _
    · exact calm.clockAfter _ _
  | wait seconds =>
    rw [step]
    split
    · rfl
    · exact calm.clockAfter _ _

theorem clock_replay (calm : outside.Calm name) (moment : Moment) (calls : List Call) :
    (outside.replay moment calls).clock = moment.clock := by
  induction calls generalizing moment with
  | nil => rfl
  | cons made rest ih => exact (ih _).trans (calm.clock_step moment made)

/-- A call takes at most one of the requests that are left. -/
theorem requestsLeft_le_step (outside : Outside) (moment : Moment) (made : Call) :
    moment.requestsLeft ≤ (outside.step moment made).requestsLeft + 1 := by
  cases made with
  | ask request =>
    simp only [step, lapse]
    omega
  | list pool => exact Nat.le_succ _
  | run runner =>
    rw [step]
    split
    · exact Nat.le_succ _
    · exact Nat.le_succ _
  | wait seconds =>
    rw [step]
    split
    · exact Nat.le_succ _
    · exact Nat.le_succ _

/-- While requests are left, the server decides on the reply. -/
theorem replyAt_of_room {moment : Moment} (room : 0 < moment.requestsLeft) (request : Request) :
    outside.replyAt moment request =
      outside.serve (moment.history ++ [.ask request]) request := by
  rw [replyAt]
  split
  next none => omega
  · rfl

/-- Alike calls come to the same in calm outsides that send the pool the same replies. -/
theorem concurs
    (calm : first.Calm pool.name)
    (alsoCalm : second.Calm pool.name)
    {here there : Moment}
    (clock : there.clock = here.clock)
    {made mirrored : Call}
    (alike : made.Alike pool mirrored)
    (replies :
      ∀ request, made = .ask request →
        ∀ history earlier, second.serve history request = first.serve earlier request)
    (room : 0 < here.requestsLeft)
    (alsoRoom : 0 < there.requestsLeft) :
    Concurs pool first second here there made mirrored where
  reply request asks _ := by
    rw [replyAt_of_room room, replyAt_of_room alsoRoom]
    exact replies request asks _ _
  listing _ _ := by rw [calm.listFault, alsoCalm.listFault]
  start starts := by
    cases alike with
    | ask | list => cases starts
    | run launcher labels token =>
      rw [calm.runFault _ _ (launcher.pool_spec pool labels token _),
        alsoCalm.runFault _ _ (launcher.pool_spec pool labels token _)]
      exact .none
  settling containers := by rw [calm.settle, alsoCalm.settle]
  clock := by
    rw [calm.clock_step, alsoCalm.clock_step]
    exact clock

/-- Calm outsides that send a pool the same replies serve it alike as long as requests are
left. -/
theorem serveAlike
    (calm : first.Calm pool.name)
    (alsoCalm : second.Calm pool.name)
    {here there : Moment}
    (clock : there.clock = here.clock)
    {calls others : List Call}
    (replies :
      ∀ request, .ask request ∈ calls →
        ∀ history earlier, second.serve history request = first.serve earlier request)
    (room : calls.length ≤ here.requestsLeft)
    (alsoRoom : others.length ≤ there.requestsLeft) :
    ServeAlike pool first second here there calls others := by
  induction calls generalizing here there others with
  | nil => trivial
  | cons made rest ih =>
    cases others with
    | nil => trivial
    | cons mirrored others =>
      intro alike
      rw [List.length_cons] at room alsoRoom
      have left := requestsLeft_le_step first here made
      have alsoLeft := requestsLeft_le_step second there mirrored
      have now : Concurs pool first second here there made mirrored := by
        refine concurs calm alsoCalm clock alike ?_ (by omega) (by omega)
        rintro request rfl
        exact replies request List.mem_cons_self
      refine ⟨now, ih now.clock ?_ (by omega) (by omega)⟩
      exact fun request listed => replies request (List.mem_cons_of_mem _ listed)

end Outside.Calm

/-- Stays in calm worlds that begin at the same time, and in which the pool gets the same
replies. -/
theorem Stay.FacesAlike.of_calm
    {first second : World}
    {stay other : Stay}
    (calm : first.outside.Calm pool.name)
    (alsoCalm : second.outside.Calm pool.name)
    (clock : second.clock = first.clock)
    (leads : first.Leads stay.since ∧ stay.since.Leads stay.visit.world)
    (alsoLeads : second.Leads other.since ∧ other.since.Leads other.visit.world)
    (replies :
      ∀ request, .ask request ∈ stay.visit.calls →
        ∀ history earlier,
          second.outside.serve history request = first.outside.serve earlier request)
    (room : stay.visit.calls.length ≤ stay.visit.world.requestsLeft)
    (alsoRoom : other.visit.calls.length ≤ other.visit.world.requestsLeft)
    (working : stay.visit.outcome.2.stopped = false)
    (alsoWorking : other.visit.outcome.2.stopped = false) :
    FacesAlike pool stay other := by
  rcases leads with ⟨⟨early, begins⟩, ⟨late, follows⟩⟩
  rcases alsoLeads with ⟨⟨alsoEarly, alsoBegins⟩, ⟨alsoLate, alsoFollows⟩⟩
  have outside : stay.visit.world.outside = first.outside :=
    follows.outside.trans begins.outside
  have alsoOutside : other.visit.world.outside = second.outside :=
    alsoFollows.outside.trans alsoBegins.outside
  have same : other.visit.world.clock = stay.visit.world.clock := by
    rw [(begins.trans follows).clock, (alsoBegins.trans alsoFollows).clock, calm.clock_replay,
      alsoCalm.clock_replay]
    exact clock
  exact
    { settling := by
        intro containers
        rw [begins.outside, alsoBegins.outside, calm.settled, alsoCalm.settled]
      clock := same
      refusal := by
        rw [World.refusal?, World.refusal?, outside, alsoOutside, calm.connectFault,
          alsoCalm.connectFault, ite_self, ite_self]
      serve := by
        rw [outside, alsoOutside]
        exact calm.serveAlike alsoCalm same replies room alsoRoom
      working
      alsoWorking }

/-- A pool of the same kind whose forge is elsewhere. -/
def Pool.remote : Pool :=
  { Pool.single "testers" with url := "http://elsewhere" }

/-- Whether a request goes to the forge of the single pools. -/
def Request.isNear (request : Request) : Bool :=
  (Text.ofString "http://forge").isPrefixOf request.url

/-- A world in which a job waits at one forge and, if the other one is busy, one there as well.
A busy forge's runners cannot be started, and one of them has ended. -/
def World.shared (busy : Bool) : World :=
  let waiting := World.waiting 1000.0
  let full : Fault := ⟨.engine, "APIError", "no room"⟩
  { waiting with
    environment :=
      [("GITEA_AUTH_TOKEN", "secret"), ("GITEA_RUNNER_REGISTRATION_TOKEN", "secret")]
    containers := if busy then [⟨"testers", "exited"⟩] else []
    outside :=
      { waiting.outside with
        serve := fun history request =>
          if busy || request.isNear then waiting.outside.serve history request
          else Script.emptyAnswer request
        runFault := fun history =>
          match history.getLast? with
          | some (.run runner) => if runner.pool == "testers" then some full else none
          | _ => none
        clockAfter := fun _ clock => clock
        choice := fun number => number } }

theorem World.shared_calm (busy : Bool) : (World.shared busy).outside.Calm "builders" where
  settle _ _ := rfl
  clockAfter _ _ := rfl
  connectFault _ := rfl
  listFault _ := rfl
  runFault history runner own := by
    have foreign : runner.pool ≠ "testers" := by
      rw [own]
      decide
    simp [World.shared, foreign]

theorem World.shared_beside :
    World.Beside (Pool.single "builders") (World.shared false) (World.shared true) where
  limits := rfl
  containers := rfl
  environment := rfl
  apart := (World.shared_calm false).keepsApart
  alsoApart := (World.shared_calm true).keepsApart

/-- Whether a visit asks the near forge only, with requests that are left, and no stop signal
arrives in it. -/
def Visit.isServedNear (visit : Visit) : Bool :=
  !visit.outcome.2.stopped && visit.calls.length ≤ visit.world.requestsLeft &&
    visit.calls.all fun
      | .ask request => request.isNear
      | _ => true

/-- The builders are served alike whether or not the testers' forge is busy: in two rounds
these try to start a runner each time or never, and the builders start one in the first. -/
theorem patrol_undisturbed_testers :
    let pool := Pool.single "builders"
    let pools := [Pool.remote, pool]
    let visits (busy : Bool) :=
      patrolVisits Settings.plain pools {} (some 2) (World.shared busy)
    let stays (busy : Bool) :=
      patrolStays Settings.plain pools {} (some 2) (World.shared busy) pool.name
    (pools.map (·.name)).Nodup ∧
      pool ∈ pools ∧
        World.Beside pool (World.shared false) (World.shared true) ∧
          List.Forall₂ (Stay.FacesAlike pool) (stays false) (stays true) ∧
            ((visits false).map fun round => round.map (·.calls.length)) = [[4, 5], [4, 1]] ∧
              ((visits true).map fun round => round.map (·.calls.length)) = [[5, 5], [5, 1]] ∧
                List.Forall₂ (fun stay other => Visit.Alike pool stay.visit other.visit)
                  (stays false) (stays true) := by
  intro pool pools visits stays
  have distinct : (pools.map (·.name)).Nodup := by decide
  have member : pool ∈ pools := .tail _ (.head _)
  have length : (stays false).length = 2 ∧ (stays true).length = 2 := by decide +kernel
  have near : ∀ busy, (stays busy).all (·.visit.isServedNear) = true := by decide +kernel
  have leads (busy : Bool) :
      ∀ stay ∈ stays busy,
        (World.shared busy).Leads stay.since ∧ stay.since.Leads stay.visit.world :=
    patrolStays_leads Settings.plain distinct member {} (some 2) (World.shared busy)
  have faces : List.Forall₂ (Stay.FacesAlike pool) (stays false) (stays true) := by
    rw [List.forall₂_iff_zip]
    refine ⟨length.1.trans length.2.symm, ?_⟩
    intro stay other paired
    rcases List.of_mem_zip paired with ⟨listed, alsoListed⟩
    have own := List.all_eq_true.mp (near false) stay listed
    have alsoOwn := List.all_eq_true.mp (near true) other alsoListed
    simp only [Visit.isServedNear, Bool.and_eq_true, Bool.not_eq_true', decide_eq_true_eq,
      List.all_eq_true] at own alsoOwn
    rcases own with ⟨⟨working, room⟩, asks⟩
    rcases alsoOwn with ⟨⟨alsoWorking, alsoRoom⟩, _⟩
    refine .of_calm (World.shared_calm false) (World.shared_calm true) rfl
      (leads false stay listed) (leads true other alsoListed) ?_ room alsoRoom working alsoWorking
    intro request asked history earlier
    have near := asks _ asked
    simp only [World.shared, near, Bool.or_true, if_true]
    rfl
  refine ⟨distinct, member, World.shared_beside, faces, ?_, ?_, ?_⟩
  · decide +kernel
  · decide +kernel
  · exact (patrol_undisturbed distinct member World.shared_beside faces).2

end RunnerFleet
