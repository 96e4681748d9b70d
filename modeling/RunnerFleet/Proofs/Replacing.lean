import RunnerFleet.Proofs.Aside
import RunnerFleet.Proofs.Containment
import RunnerFleet.Proofs.Refreshing
import RunnerFleet.Proofs.Visiting

/-!
# A published file is replaced whole

A publication may go in four ways: the file aside is not opened, or not written to its end, or
not moved into place, or the publication succeeds.  At its path there is the old file up to the
move, and the new one, whole, after it; whatever fails, no other file but the one aside is
touched.  A text that was written to its end shows the statuses of all pools.

So however publications at one path go, the file there is always that of the last one that
succeeded.  In a run nothing but the publications of its turns touches this file.
-/

namespace RunnerFleet

/-! ## Publications -/

/-- A publication of statuses at a path, with the world in which it begins. -/
structure Publication where
  path : Text
  statuses : List (Text × PoolStatus)
  world : World

namespace Publication

variable (publication : Publication)

/-- The document of a publication, as it is written. -/
def written : Json.Written :=
  Json.write (.object (statusDocument publication.statuses))

/-- The text of a publication, in octets. -/
def text : List UInt8 :=
  statusOctets publication.statuses

/-- How the system fails during a publication, if it does. -/
def system? : Option PublishFault :=
  publication.world.outside.publishFault publication.world.history

/-- What writing the text aside comes to. -/
def wrote : Directory × Option Failure :=
  publication.world.directory.writeAside publication.path publication.written
    publication.system?

/-- What moving the file aside into place comes to, after it was written. -/
def moved : Directory × Option Failure :=
  publication.wrote.1.moveIntoPlace publication.path publication.system?

/-- Whether the text was written aside and the file was moved. -/
def succeeds : Bool :=
  publication.wrote.2.isNone && publication.moved.2.isNone

/-- What a publication comes to. -/
def outcome : Except Failure Unit × World :=
  (publish publication.path (statusDocument publication.statuses)).run.run publication.world

/-- The directory that a publication leaves. -/
def left : Directory :=
  publication.outcome.2.directory

/-- The text that a publication leaves at its path, if it does. -/
def published? : Option (List UInt8) :=
  if publication.succeeds then some publication.text else none

/-- The ways in which a publication may go. -/
inductive Course : Prop where
  | unopened
      (failure : Failure)
      (wrote : publication.wrote = (publication.world.directory, some failure))
  | unwritten
      {origin : Location}
      (aside : publication.world.directory.Aside publication.path origin)
      (left : List UInt8)
      (failure : Failure)
      (wrote :
        publication.wrote =
          (publication.world.directory.put origin (.file left), some failure))
  | unmoved
      {origin : Location}
      (aside : publication.world.directory.Aside publication.path origin)
      (whole : publication.written.whole = true)
      (failure : Failure)
      (wrote :
        publication.wrote =
          (publication.world.directory.put origin (.file publication.text), none))
      (moved : publication.moved = (publication.wrote.1, some failure))
  | moved
      {origin target : Location}
      (aside : publication.world.directory.Aside publication.path origin)
      (whole : publication.written.whole = true)
      (wrote :
        publication.wrote =
          (publication.world.directory.put origin (.file publication.text), none))
      (goes : publication.wrote.1.locationOf publication.path = .ok target)
      (free : publication.wrote.1.node? target ≠ some .folder)
      (moved :
        publication.moved =
          ((publication.wrote.1.remove origin).put target (.file publication.text), none))

theorem course : publication.Course := by
  rcases publication.world.directory.writeAside_cases publication.path
      publication.written publication.system? with
    ⟨failure, wrote⟩ | ⟨origin, aside, ⟨left, failure, wrote⟩ | ⟨whole, wrote⟩⟩
  · exact .unopened failure wrote
  · exact .unwritten aside left failure wrote
  · rcases publication.wrote.1.moveIntoPlace_cases publication.path publication.system? with
      ⟨failure, moved⟩ | ⟨found, node, target, leads, stands, goes, free, moved⟩
    · exact .unmoved aside whole failure wrote moved
    · have written : publication.wrote =
          (publication.world.directory.put origin (.file publication.text), none) := wrote
      rw [written, aside.again] at leads
      cases leads
      rw [written, Directory.node?_put_self] at stands
      cases stands
      exact .moved aside whole wrote goes free moved

/-- A publication leaves what the last operation left, and its failure is that of the first one
that failed. -/
theorem published_eq :
    publication.world.published publication.path (statusDocument publication.statuses) =
      (if publication.wrote.2.isNone then publication.moved.1 else publication.wrote.1,
        publication.wrote.2.or publication.moved.2) := by
  have published :
      publication.world.published publication.path (statusDocument publication.statuses) =
        publication.world.directory.publish publication.path publication.written
          publication.system? :=
    rfl
  have written :
      publication.world.directory.writeAside publication.path publication.written
          publication.system? =
        publication.wrote :=
    rfl
  rw [published, Directory.publish, written, moved]
  rcases publication.wrote with ⟨written, failure | failure⟩
  · rfl
  · rfl

theorem left_eq :
    publication.left =
      if publication.wrote.2.isNone then publication.moved.1 else publication.wrote.1 := by
  have leaves := (publish_leaves (Prod.ext rfl rfl : _ = publication.outcome)).2
  rw [publication.published_eq] at leaves
  exact leaves

/-- No failure of the system leaves a publication. -/
theorem ofSystem_of_error
    {failure : Failure}
    (failed : publication.outcome.1 = .error failure) :
    failure.ofSystem = false := by
  rw [outcome, publish_run] at failed
  split at failed
  · cases failed
  next cause _ =>
    split at failed
    · cases failed
    next foreign =>
      cases failed
      simpa using foreign

/-- A publication replaces the file at its path whole or leaves it as it was. -/
structure Replaces : Prop where
  /-- No failure of the system leaves the publication.  What does leave it comes before
  anything was changed, or because the document cannot be written to its end. -/
  contained (failure : Failure) :
    publication.outcome.1 = .error failure →
      failure.ofSystem = false ∧
        (publication.left = publication.world.directory ∨
          failure = .tooManyDigits ∧ publication.written.whole = false)
  /-- A text that was written to its end shows the statuses. -/
  complete : publication.wrote.2 = none → Shows publication.text publication.statuses
  /-- While the text is written aside, the file at the path is still the old one. -/
  unread :
    publication.wrote.1.nodeAt publication.path =
      publication.world.directory.nodeAt publication.path
  /-- If both operations succeed, the whole text is at the path and nothing is aside. -/
  replaced :
    publication.succeeds = true →
      publication.left.nodeAt publication.path = .ok (some (.file publication.text)) ∧
        publication.left.nodeAt (asidePath publication.path) = .ok none
  /-- If one of them fails, what was at the path is still there. -/
  kept :
    publication.succeeds = false →
      publication.left.nodeAt publication.path =
        publication.world.directory.nodeAt publication.path
  /-- If the move fails, the whole text is aside. -/
  aside :
    publication.wrote.2 = none →
      publication.moved.2 ≠ none →
        publication.left.nodeAt (asidePath publication.path) =
          .ok (some (.file publication.text))
  /-- Nothing else is created, changed or removed. -/
  elsewhere (location : Location) :
    publication.world.directory.locationOf publication.path ≠ .ok location →
      publication.world.directory.locationOf (asidePath publication.path) ≠ .ok location →
        publication.left.node? location = publication.world.directory.node? location

variable {publication}

/-- At a path that can be handed to the system a publication fails only because the document
cannot be written to its end. -/
theorem contained_of_spelled
    (spelled : ∃ given, Path.ofText publication.path = .ok given)
    {failure : Failure}
    (failed : publication.outcome.1 = .error failure) :
    failure.ofSystem = false ∧
      (publication.left = publication.world.directory ∨
        failure = .tooManyDigits ∧ publication.written.whole = false) := by
  refine ⟨publication.ofSystem_of_error failed, .inr ?_⟩
  rcases publish_contained spelled (statusDocument publication.statuses) publication.world with
    done | ⟨result, _, part⟩
  · cases failed.symm.trans done
  · cases failed.symm.trans result
    exact ⟨rfl, part⟩

variable {origin : Location}

/-- A publication that leaves something aside, and no more, replaces nothing. -/
theorem replaces_of_aside
    (aside : publication.world.directory.Aside publication.path origin)
    {content : List UInt8}
    (wrote : publication.wrote.1 = publication.world.directory.put origin (.file content))
    (left : publication.left = publication.wrote.1)
    (failed : publication.succeeds = false)
    (whole :
      publication.wrote.2 = none →
        content = publication.text ∧ publication.written.whole = true) :
    publication.Replaces where
  contained _ escaped := contained_of_spelled aside.spelled escaped
  complete written := shows_statuses (whole written).2
  unread := by rw [wrote, aside.nodeAt_put]
  replaced succeeded := by
    rw [failed] at succeeded
    cases succeeded
  kept _ := by rw [left, wrote, aside.nodeAt_put]
  aside written _ := by rw [left, wrote, aside.nodeAt_aside, (whole written).1]
  elsewhere location _ apart := by
    have differs : location ≠ origin := by
      rintro rfl
      exact apart aside.leads
    rw [left, wrote, Directory.node?_put_of_ne _ differs]

/-- A publication that moves the file aside into place replaces what was there. -/
theorem replaces_of_moved
    {target : Location}
    (aside : publication.world.directory.Aside publication.path origin)
    (whole : publication.written.whole = true)
    (wrote :
      publication.wrote =
        (publication.world.directory.put origin (.file publication.text), none))
    (goes : publication.wrote.1.locationOf publication.path = .ok target)
    (free : publication.wrote.1.node? target ≠ some .folder)
    (moved :
      publication.moved =
        ((publication.wrote.1.remove origin).put target (.file publication.text), none)) :
    publication.Replaces := by
  have succeeded : publication.succeeds = true := by
    rw [succeeds, moved, wrote]
    rfl
  have left :
      publication.left =
        (publication.wrote.1.remove origin).put target (.file publication.text) := by
    rw [left_eq, moved, wrote]
    rfl
  have file : publication.wrote.1.node? origin ≠ some .folder := by
    rw [wrote, Directory.node?_put_self]
    nofun
  have keeps : publication.wrote.1.KeepsFolders publication.left := by
    rw [left]
    exact Directory.keepsFolders_move file free
  have again :
      publication.wrote.1.locationOf (asidePath publication.path) = .ok origin := by
    rw [wrote]
    exact aside.again _
  -- What is aside is not what the path leads to, so removing it leaves the target alone.
  have reached : publication.world.directory.locationOf publication.path = .ok target ∧
      target ≠ origin := by
    rcases aside.apart with ⟨found, leads, differs⟩ | nowhere
    · rw [wrote, (aside.keepsFolders _).locationOf leads] at goes
      cases goes
      exact ⟨leads, differs⟩
    · rw [nowhere] at goes
      cases goes
  exact
    { contained := fun _ escaped => contained_of_spelled aside.spelled escaped
      complete := fun _ => shows_statuses whole
      unread := by rw [wrote, aside.nodeAt_put]
      replaced := fun _ => by
        refine ⟨?_, ?_⟩
        · rw [Directory.nodeAt_of_locationOf (keeps.locationOf goes), left,
            Directory.node?_put_self]
        · rw [Directory.nodeAt_of_locationOf (keeps.locationOf again), left,
            Directory.node?_put_of_ne _ reached.2.symm, Directory.node?_remove_self,
            aside.standardNode?]
      kept := fun failed => by
        rw [succeeded] at failed
        cases failed
      aside := fun _ unmoved => by
        rw [moved] at unmoved
        exact absurd rfl unmoved
      elsewhere := fun location unpublished apart => by
        have differs : location ≠ target := by
          rintro rfl
          exact unpublished reached.1
        have unwritten : location ≠ origin := by
          rintro rfl
          exact apart aside.leads
        rw [left, Directory.node?_put_of_ne _ differs, Directory.node?_remove_of_ne _ unwritten,
          wrote, Directory.node?_put_of_ne _ unwritten] }

variable (publication)

theorem replaces : publication.Replaces := by
  cases publication.course with
  | unopened failure wrote =>
    have left : publication.left = publication.world.directory := by
      rw [left_eq, wrote]
      rfl
    have failed : publication.succeeds = false := by
      rw [succeeds, wrote]
      rfl
    exact
      { contained := fun _ escaped => ⟨publication.ofSystem_of_error escaped, .inl left⟩
        complete := fun written => by
          rw [wrote] at written
          cases written
        unread := by rw [wrote]
        replaced := fun succeeded => by
          rw [failed] at succeeded
          cases succeeded
        kept := fun _ => by rw [left]
        aside := fun written => by
          rw [wrote] at written
          cases written
        elsewhere := fun location _ _ => by rw [left] }
  | unwritten aside part failure wrote =>
    refine replaces_of_aside aside (congrArg Prod.fst wrote) ?_ ?_ ?_
    · rw [left_eq, wrote]
      rfl
    · rw [succeeds, wrote]
      rfl
    · rw [wrote]
      nofun
  | unmoved aside whole failure wrote moved =>
    refine replaces_of_aside aside (congrArg Prod.fst wrote) ?_ ?_ fun _ => ⟨rfl, whole⟩
    · rw [left_eq, moved, wrote]
      rfl
    · rw [succeeds, moved, wrote]
      rfl
  | moved aside whole wrote goes free moved =>
    exact replaces_of_moved aside whole wrote goes free moved

end Publication

/-! ## Publications one after another -/

/-- Publications at one path, one after another.  What happens before the first of them, between
any two and after the last is left open, but it leaves the file at the path alone. -/
inductive Publications (path : Text) : Directory → List Publication → Directory → Prop where
  | nil
      {before after : Directory}
      (still : after.nodeAt path = before.nodeAt path) :
      Publications path before [] after
  | cons
      {before after : Directory}
      {publication : Publication}
      {publications : List Publication}
      (there : publication.path = path)
      (still : publication.world.directory.nodeAt path = before.nodeAt path)
      (rest : Publications path publication.left publications after) :
      Publications path before (publication :: publications) after

/-- What stands at a path after a publication is its text, if it succeeds, or else what stood
there before it. -/
theorem Publication.nodeAt_left (publication : Publication) :
    publication.left.nodeAt publication.path =
      match publication.published? with
      | some text => .ok (some (.file text))
      | none => publication.world.directory.nodeAt publication.path := by
  rw [published?]
  cases succeeded : publication.succeeds with
  | true =>
    rw [if_pos rfl]
    exact (publication.replaces.replaced succeeded).1
  | false =>
    rw [if_neg Bool.false_ne_true]
    exact publication.replaces.kept succeeded

/-- However publications at one path go, the file there holds the text of the last one that
succeeded, and is as it was before them if none did. -/
theorem Publications.nodeAt_eq
    {path : Text}
    {before after : Directory}
    {publications : List Publication}
    (course : Publications path before publications after) :
    after.nodeAt path =
      match (publications.filterMap Publication.published?).getLast? with
      | some text => .ok (some (.file text))
      | none => before.nodeAt path := by
  induction course with
  | nil still => exact still
  | @cons before after publication publications there still rest ih =>
    rw [getLast?_filterMap_cons, ih]
    cases (publications.filterMap Publication.published?).getLast? with
    | some text => rfl
    | none => rw [Option.none_or, ← still, ← there, publication.nodeAt_left]

/-- Every publication replaces the file at its path whole or leaves it alone, and changes no
other file but the one aside.  So the file always holds the text of the last publication that
succeeded. -/
theorem publications_replace
    {path : Text}
    {before after : Directory}
    {publications : List Publication}
    (course : Publications path before publications after) :
    (∀ publication ∈ publications, publication.Replaces) ∧
      after.nodeAt path =
        match (publications.filterMap Publication.published?).getLast? with
        | some text => .ok (some (.file text))
        | none => before.nodeAt path :=
  ⟨fun publication _ => publication.replaces, course.nodeAt_eq⟩

/-- A move that fails leaves a file aside, which the next publication replaces; its text stays
when the one after that runs out of space. -/
theorem publications_replace_stale :
    let path : Text := "status.json"
    let counted (live : Int) : List (Text × PoolStatus) := [("builders", { live })]
    let world := World.waiting 1000.0
    let failing (step : PublishStep) : Outside :=
      { world.outside with publishFault := fun _ => some ⟨step, 28, "No space left on device"⟩ }
    let first : Publication := ⟨path, counted 1, { world with outside := failing .moving }⟩
    let second : Publication := ⟨path, counted 2, { world with directory := first.left }⟩
    let third : Publication :=
      ⟨path, counted 3,
        { world with directory := second.left, outside := failing (.writing []) }⟩
    Publications path world.directory [first, second, third] third.left ∧
      first.left.nodeAt (asidePath path) = .ok (some (.file first.text)) ∧
        third.left.nodeAt path = .ok (some (.file second.text)) ∧
          Shows second.text (counted 2) := by
  intro path counted world failing first second third
  have next : second.world.directory = first.left := by dsimp only [second]
  have last : third.world.directory = second.left := by dsimp only [third]
  have course : Publications path world.directory [first, second, third] third.left :=
    .cons rfl rfl (.cons rfl (congrArg (·.nodeAt path) next)
      (.cons rfl (congrArg (·.nodeAt path) last) (.nil rfl)))
  have wrote : first.wrote.2 = none := by decide +kernel
  have unmoved : first.moved.2 ≠ none := by decide +kernel
  have through : second.wrote.2 = none := by decide +kernel
  have latest :
      ([first, second, third].filterMap Publication.published?).getLast? = some second.text := by
    decide +kernel
  rcases publications_replace course with ⟨each, stands⟩
  rw [latest] at stands
  have member : second ∈ [first, second, third] := .tail _ (.head _)
  exact ⟨course, (each first List.mem_cons_self).aside wrote unmoved, stands,
    (each second member).complete through⟩

/-! ## The publications of a run -/

/-- Two worlds have the same files. -/
def World.SameFiles (before after : World) : Prop :=
  after.directory = before.directory

theorem World.sameFiles_isCourse : Act.IsCourse World.SameFiles where
  refl _ := rfl
  trans first second := Eq.trans second first

theorem ask_sameFiles (request : Request) : Act.Keeps World.SameFiles (ask request) := by
  intro world
  rw [ask, Act.run_bind]
  dsimp only
  split
  · rfl
  · rfl

theorem connect_sameFiles : Act.Keeps World.SameFiles connect := by
  intro world
  rw [connect, Act.run_bind]
  split
  · rfl
  · split
    · rfl
    · rfl

theorem listContainers_sameFiles (pool : Text) :
    Act.Keeps World.SameFiles (listContainers pool) := by
  apply Act.Keeps.bind World.sameFiles_isCourse connect_sameFiles
  intro refused world
  cases refused with
  | some fault => rfl
  | none =>
    dsimp only
    rw [Act.run_bind, Act.run_bind]
    split
    · rfl
    · rfl

theorem runContainer_sameFiles (runner : RunnerSpec) :
    Act.Keeps World.SameFiles (runContainer runner) := by
  apply Act.Keeps.bind World.sameFiles_isCourse connect_sameFiles
  intro refused world
  cases refused with
  | some fault => rfl
  | none =>
    dsimp only
    rw [Act.run_bind]
    split
    · rfl
    · rfl

theorem Provisioner.reconcile_sameFiles
    (provisioner : Provisioner)
    (pool : Pool)
    (status : PoolStatus) :
    Act.Keeps World.SameFiles (provisioner.reconcile pool status) := by
  have course := World.sameFiles_isCourse
  have passed := Forge.keeps_passedToFetches course fun _ _ => rfl
  refine provisioner.reconcile_holds pool passed ?requests ?starts ?lists status
  case requests => exact fun _ _ _ _ => Forge.request_holds passed (ask_sameFiles _) _
  case starts =>
    refine provisioner.startAll_holds pool passed course.refl fun token => ?_
    exact Launcher.start_holds passed (fun _ _ => rfl) fun name => runContainer_sameFiles _
  case lists => exact listContainers_sameFiles pool.name

/-- The publication of a turn. -/
def Turn.publication (path : Text) (turn : Turn) : Publication :=
  ⟨path, turn.fleet.statuses, turn.visited⟩

namespace Fleet

variable {fleet last : Fleet} {world after : World}

/-- Visits touch no file. -/
theorem Visits.sameFiles
    {visits : List Visit}
    (course : Visits fleet world visits last after) :
    world.SameFiles after := by
  induction course with
  | nil => exact World.sameFiles_isCourse.refl _
  | @cons _ _ visit _ _ _ _ _ ih =>
    exact World.sameFiles_isCourse.trans
      (visit.provisioner.reconcile_sameFiles visit.pool visit.status visit.world) ih

variable
  {settings : Settings}
  {path : Text}
  (file : settings.statusPath? = some path)

include file

/-- Nothing but its publications touches the status file in a run. -/
theorem Turns.publications
    {turns : List Turn}
    {ending : FleetEnd}
    (course : Turns settings fleet world turns ending after) :
    Publications path world.directory (turns.map (Turn.publication path)) after.directory := by
  have each := course.publishes file
  have left {turn : Turn}
      (published :
        ∃ outcome,
          (publish path (statusDocument turn.fleet.statuses)).run.run turn.visited =
            (outcome, turn.after)) :
      (turn.publication path).left = turn.after.directory := by
    rcases published with ⟨_, published⟩
    exact congrArg (fun result => result.2.directory) published
  induction course with
  | stopped _ => exact .nil rfl
  | last _ visits _ | unpublished _ visits _ _ _ =>
    refine .cons rfl (congrArg (Directory.nodeAt · path) visits.sameFiles) (.nil ?_)
    rw [left (each _ List.mem_cons_self)]
  | unwaited _ visits _ wait =>
    refine .cons rfl (congrArg (Directory.nodeAt · path) visits.sameFiles) (.nil ?_)
    rw [left (each _ List.mem_cons_self), (wait_leaves wait).2]
  | again _ visits _ wait _ ih =>
    rcases List.forall_mem_cons.mp each with ⟨first, others⟩
    refine .cons rfl (congrArg (Directory.nodeAt · path) visits.sameFiles) ?_
    rw [left first, ← (wait_leaves wait).2]
    exact ih others

/-- During a run the status file holds the statuses of the last turn that could publish them,
whole, and is what it was before the run until one could. -/
theorem Turns.nodeAt_status
    {turns : List Turn}
    {ending : FleetEnd}
    (course : Turns settings fleet world turns ending after) :
    after.directory.nodeAt path =
      match (turns.filterMap fun turn => (turn.publication path).published?).getLast? with
      | some text => .ok (some (.file text))
      | none => world.directory.nodeAt path := by
  have stands := (course.publications file).nodeAt_eq
  rw [List.filterMap_map] at stands
  exact stands

end Fleet

end RunnerFleet
