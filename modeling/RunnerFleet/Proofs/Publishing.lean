import RunnerFleet.Status

/-!
# What a publication leaves

Where a path leads depends on the folders alone, and writing or moving a file changes no
folder.  So a publication that succeeds leaves the whole document at its path.  A path
that the system can be handed has octets, and so has the path of the file aside; the only
failures of a publication are then those that the system reports.
-/

namespace RunnerFleet

section

variable {Problem Other Item Answer : Type}

theorem bind_eq_ok_iff
    {first : Except Problem Item}
    {second : Item → Except Problem Answer}
    {answer : Answer} :
    first >>= second = .ok answer ↔ ∃ item, first = .ok item ∧ second item = .ok answer := by
  cases first with
  | error problem => simp [bind, Except.bind]
  | ok item => simp [bind, Except.bind]

theorem mapError_eq_ok_iff
    {outcome : Except Problem Answer}
    {change : Problem → Other}
    {answer : Answer} :
    outcome.mapError change = .ok answer ↔ outcome = .ok answer := by
  cases outcome with
  | error problem =>
    constructor
    · rintro ⟨⟩
    · rintro ⟨⟩
  | ok other =>
    constructor
    · rintro ⟨⟩
      rfl
    · rintro ⟨⟩
      rfl

end

namespace Directory

variable (directory : Directory)

/-! ## What stands where -/

@[simp]
theorem node?_put_self (location : Location) (node : Node) :
    (directory.put location node).node? location = some node := by
  rw [node?, put, Table.lookup_put_self, Option.some_or]

theorem node?_put_of_ne
    {location other : Location}
    (differs : other ≠ location)
    (node : Node) :
    (directory.put location node).node? other = directory.node? other := by
  rw [node?, put, Table.lookup_put_of_ne differs, node?]

theorem node?_remove_of_ne {location other : Location} (differs : other ≠ location) :
    (directory.remove location).node? other = directory.node? other := by
  rw [node?, remove, Table.lookup_drop_of_ne differs, node?]

/-- The folders of a directory are folders of another one. -/
def KeepsFolders (later : Directory) : Prop :=
  ∀ location, directory.node? location = some .folder → later.node? location = some .folder

variable {directory}

theorem keepsFolders_put
    {location : Location}
    {node : Node}
    (file : directory.node? location ≠ some .folder) :
    directory.KeepsFolders (directory.put location node) := by
  intro other folder
  have differs : other ≠ location := fun equal => file (equal ▸ folder)
  rw [directory.node?_put_of_ne differs]
  exact folder

theorem keepsFolders_remove
    {location : Location}
    (file : directory.node? location ≠ some .folder) :
    directory.KeepsFolders (directory.remove location) := by
  intro other folder
  have differs : other ≠ location := fun equal => file (equal ▸ folder)
  rw [directory.node?_remove_of_ne differs]
  exact folder

/-- A file that is moved to where there is no folder leaves every folder. -/
theorem keepsFolders_move
    {origin target : Location}
    {node : Node}
    (file : directory.node? origin ≠ some .folder)
    (free : directory.node? target ≠ some .folder) :
    directory.KeepsFolders ((directory.remove origin).put target node) := by
  intro other folder
  have differs : other ≠ target := fun equal => free (equal ▸ folder)
  rw [node?_put_of_ne _ differs]
  exact keepsFolders_remove file other folder

namespace KeepsFolders

variable {later : Directory} (keeps : directory.KeepsFolders later)

include keeps

/-- Where a walk leads, it leads as long as the folders are there. -/
theorem walk
    {current : Location}
    {names : List (List UInt8)}
    {location : Location}
    (leads : directory.walk current names = .ok location) :
    later.walk current names = .ok location := by
  induction names generalizing current with
  | nil => exact leads
  | cons name rest ih =>
    rw [Directory.walk] at leads ⊢
    split
    next here =>
      rw [if_pos here] at leads
      exact ih leads
    next named =>
      rw [if_neg named] at leads
      split
      next up =>
        rw [if_pos up] at leads
        exact ih leads
      next down =>
        rw [if_neg down] at leads
        split
        next long =>
          rw [if_pos long] at leads
          cases leads
        next short =>
          rw [if_neg short] at leads
          dsimp only at leads ⊢
          split
          next last =>
            rw [if_pos last] at leads
            exact leads
          next more =>
            rw [if_neg more] at leads
            cases stands : directory.node? (current ++ [name]) with
            | none =>
              rw [stands] at leads
              cases leads
            | some node =>
              cases node with
              | file content =>
                rw [stands] at leads
                cases leads
              | folder =>
                rw [stands] at leads
                rw [keeps _ stands]
                exact ih leads

theorem locate
    {path : Path}
    {location : Location}
    (leads : directory.locate path = .ok location) :
    later.locate path = .ok location := by
  rw [Directory.locate] at leads ⊢
  split
  next empty =>
    rw [if_pos empty] at leads
    cases leads
  next named =>
    rw [if_neg named] at leads
    split
    next long =>
      rw [if_pos long] at leads
      cases leads
    next short =>
      rw [if_neg short] at leads
      exact keeps.walk leads

end KeepsFolders

/-! ## Writing and moving -/

/-- Where a file may be written there is no folder, and the path does not name one. -/
theorem of_writable {path : Path} {location : Location}
    (allowed : directory.writable path = .ok location) :
    directory.locate path = .ok location ∧
      directory.node? location ≠ some .folder ∧ path.namesFolder = false := by
  rcases bind_eq_ok_iff.mp allowed with ⟨found, leads, permitted⟩
  split at permitted
  · cases permitted
  next free =>
    cases permitted
    exact ⟨leads, by simpa [and_comm] using free⟩

/-- Where a file may be moved to there is no folder, and the path does not name one. -/
theorem of_destination {path : Path} {location : Location}
    (allowed : directory.destination path = .ok location) :
    directory.locate path = .ok location ∧
      directory.node? location ≠ some .folder ∧ path.namesFolder = false := by
  rcases bind_eq_ok_iff.mp allowed with ⟨found, leads, permitted⟩
  split at permitted
  · cases permitted
  next =>
    split at permitted
    · cases permitted
    · split at permitted
      · cases permitted
      next unnamed =>
        split at permitted
        · cases permitted
        next free =>
          cases permitted
          exact ⟨leads, free, by simpa using unnamed⟩

theorem of_moved {source target : Path} {moved : Directory}
    (allowed : directory.moved source target = .ok moved) :
    ∃ origin node location,
      directory.locate source = .ok origin ∧
        directory.node? origin = some node ∧
          directory.destination target = .ok location ∧
            moved = (directory.remove origin).put location node := by
  rcases bind_eq_ok_iff.mp allowed with ⟨origin, leads, permitted⟩
  split at permitted
  · cases permitted
  next node stands =>
    rcases bind_eq_ok_iff.mp permitted with ⟨location, reached, result⟩
    cases result
    exact ⟨origin, node, location, leads, stands, reached, rfl⟩

/-- What is written is put where the path leads, and there is no folder. -/
theorem of_writeOctets {path : Text} {content : List UInt8} {written : Directory}
    (allowed : directory.writeOctets path content = .ok written) :
    ∃ spelled location,
      Path.ofText path = .ok spelled ∧
        directory.locate spelled = .ok location ∧
          directory.node? location ≠ some .folder ∧
            written = directory.put location (.file content) := by
  rw [writeOctets] at allowed
  split at allowed
  · cases allowed
  next location reached =>
    cases allowed
    rcases bind_eq_ok_iff.mp reached with ⟨spelled, spells, permitted⟩
    rcases of_writable permitted with ⟨leads, free, _⟩
    exact ⟨spelled, location, spells, leads, free, rfl⟩

/-- What is moved is taken from where one path leads and put where the other one does. -/
theorem of_replace {source target : Text} {moved : Directory}
    (allowed : directory.replace source target = .ok moved) :
    ∃ given goal origin node location,
      Path.ofText source = .ok given ∧
        Path.ofText target = .ok goal ∧
          directory.locate given = .ok origin ∧
            directory.node? origin = some node ∧
              directory.destination goal = .ok location ∧
                moved = (directory.remove origin).put location node := by
  rcases bind_eq_ok_iff.mp (mapError_eq_ok_iff.mp allowed) with ⟨given, spells, later⟩
  rcases bind_eq_ok_iff.mp later with ⟨goal, reached, outcome⟩
  rcases of_moved outcome with ⟨origin, node, location, leads, stands, permitted, same⟩
  exact ⟨given, goal, origin, node, location, spells, reached, leads, stands, permitted, same⟩

/-- What a path leads to after a move is what the other path led to before it. -/
theorem readOctets_of_replace {source target : Text} {moved : Directory}
    (allowed : directory.replace source target = .ok moved)
    {spelled : Path}
    (spells : Path.ofText source = .ok spelled)
    {origin : Location}
    {content : List UInt8}
    (leads : directory.locate spelled = .ok origin)
    (stands : directory.node? origin = some (.file content)) :
    moved.readOctets target = .ok content := by
  have file : directory.node? origin ≠ some .folder := by
    rw [stands]
    nofun
  rcases of_replace allowed with
    ⟨given, goal, found, node, location, also, reached, again, known, permitted, rfl⟩
  rw [spells] at also
  cases also
  rw [leads] at again
  cases again
  rw [stands] at known
  cases known
  rcases of_destination permitted with ⟨goalLeads, free, unnamed⟩
  have keeps :
      directory.KeepsFolders ((directory.remove origin).put location (.file content)) :=
    keepsFolders_move file free
  simp only [readOctets, reached, bind, Except.bind, fileAt, keeps.locate goalLeads,
    node?_put_self, unnamed]
  rfl

/-! ## Publishing -/

theorem of_writeAside
    {path : Text}
    {document : Json.Written}
    {system? : Option PublishFault}
    {written : Directory}
    (succeeded : directory.writeAside path document system? = (written, none)) :
    document.whole = true ∧
      ∃ spelled location,
        Path.ofText (asidePath path) = .ok spelled ∧
          written.locate spelled = .ok location ∧
            written.node? location = some (.file (Text.Utf8.encode document.text)) := by
  simp only [writeAside] at succeeded
  split at succeeded
  · cases succeeded
  next result allowed =>
    split at succeeded
    · cases succeeded
    · cases succeeded
    next unopened unwritten =>
      rcases Prod.mk.inj succeeded with ⟨rfl, unfailed⟩
      refine ⟨by simpa using unfailed, ?_⟩
      split at allowed
      · exact absurd rfl (unwritten _ _ _)
      · rcases of_writeOctets allowed with ⟨spelled, location, spells, leads, free, rfl⟩
        exact ⟨spelled, location, spells, (keepsFolders_put free).locate leads,
          directory.node?_put_self location _⟩

/-- After a publication that succeeds, the document is a whole one, and the file at its path
holds all of it. -/
theorem readOctets_of_publish
    {path : Text}
    {document : Json.Written}
    {system? : Option PublishFault}
    {published : Directory}
    (succeeded : directory.publish path document system? = (published, none)) :
    document.whole = true ∧
      published.readOctets path = .ok (Text.Utf8.encode document.text) := by
  rw [publish] at succeeded
  split at succeeded
  · cases succeeded
  next written aside =>
    rcases of_writeAside aside with ⟨whole, spelled, location, spells, leads, stands⟩
    rw [moveIntoPlace] at succeeded
    split at succeeded
    · cases succeeded
    next moved allowed =>
      split at succeeded
      · cases succeeded
      · cases succeeded
        exact ⟨whole, readOctets_of_replace allowed spells leads stands⟩

end Directory

/-! ## Paths that can be handed to the system -/

theorem Text.Utf8.encodingFaultFrom?_eq_none_iff {position : Nat} {text : Text} :
    encodingFaultFrom? position text = none ↔
      ∀ point ∈ text, (isSurrogate point && !isLooseOctet point) = false := by
  induction text generalizing position with
  | nil => simp [encodingFaultFrom?]
  | cons point rest ih =>
    rw [encodingFaultFrom?, List.forall_mem_cons]
    cases (isSurrogate point && !isLooseOctet point) with
    | true => simp
    | false => simp [ih]

theorem Path.exists_ofText_iff {text : Text} :
    (∃ path, ofText text = .ok path) ↔
      ∀ point ∈ text,
        (Text.Utf8.isSurrogate point && !Text.Utf8.isLooseOctet point) = false ∧
          0 ∉ Text.Utf8.pointOctets point := by
  simp only [ofText, Text.Utf8.nameOctets, Text.Utf8.encodingFault?]
  cases fault : Text.Utf8.encodingFaultFrom? 0 text with
  | some found =>
    have refused : ¬ ∀ point ∈ text,
        (Text.Utf8.isSurrogate point && !Text.Utf8.isLooseOctet point) = false := by
      intro all
      have none : Text.Utf8.encodingFaultFrom? 0 text = none :=
        Text.Utf8.encodingFaultFrom?_eq_none_iff.mpr all
      rw [fault] at none
      cases none
    simp only [reduceCtorEq, exists_false, false_iff]
    exact fun all => refused fun point member => (all point member).1
  | none =>
    have accepted := Text.Utf8.encodingFaultFrom?_eq_none_iff.mp fault
    by_cases zero : (text.flatMap Text.Utf8.pointOctets).contains 0
    · simp only [if_pos zero, reduceCtorEq, exists_false, false_iff]
      intro all
      rcases List.mem_flatMap.mp (List.contains_iff_mem.mp zero) with ⟨point, member, null⟩
      exact (all point member).2 null
    · simp only [if_neg zero, Except.ok.injEq, exists_eq', true_iff]
      intro point member
      refine ⟨accepted point member, fun null => zero ?_⟩
      exact List.contains_iff_mem.mpr (List.mem_flatMap.mpr ⟨point, member, null⟩)

/-- The path aside can be handed to the system if the path can. -/
theorem exists_ofText_asidePath {path : Text} (spelled : ∃ given, Path.ofText path = .ok given) :
    ∃ aside, Path.ofText (asidePath path) = .ok aside := by
  rw [Path.exists_ofText_iff] at spelled ⊢
  rw [asidePath, List.forall_mem_append]
  exact ⟨spelled, by decide⟩

/-! ## Failures that the system reports -/

/-- A file operation fails only with what the system reports. -/
def OfSystem {Answer : Type} (outcome : Except FileProblem Answer) : Prop :=
  ∀ problem, outcome = .error problem → problem.number?.isSome = true

namespace OfSystem

variable {Item Answer : Type}

protected theorem ok (answer : Answer) : OfSystem (.ok answer) :=
  nofun

protected theorem error {problem : FileProblem} (number : problem.number?.isSome = true) :
    OfSystem (.error problem : Except FileProblem Answer) := by
  rintro _ ⟨⟩
  exact number

protected theorem bind
    {first : Except FileProblem Item}
    {second : Item → Except FileProblem Answer}
    (start : OfSystem first)
    (rest : ∀ item, OfSystem (second item)) :
    OfSystem (first >>= second) := by
  cases first with
  | error problem => exact .error (start problem rfl)
  | ok item => exact rest item

end OfSystem

namespace Directory

variable (directory : Directory)

theorem walk_ofSystem (current : Location) (names : List (List UInt8)) :
    OfSystem (directory.walk current names) := by
  induction names generalizing current with
  | nil => exact .ok current
  | cons name rest ih =>
    rw [walk]
    split
    · exact ih current
    · split
      · exact ih current.parent
      · split
        · exact .error rfl
        · dsimp only
          split
          · exact .ok _
          · split
            · exact .error rfl
            · exact .error rfl
            · exact ih _

theorem locate_ofSystem (path : Path) : OfSystem (directory.locate path) := by
  rw [locate]
  split
  · exact .error rfl
  · split
    · exact .error rfl
    · exact directory.walk_ofSystem _ _

theorem writable_ofSystem (path : Path) : OfSystem (directory.writable path) := by
  refine (directory.locate_ofSystem path).bind fun location => ?_
  split
  · exact .error rfl
  · exact .ok location

theorem destination_ofSystem (path : Path) : OfSystem (directory.destination path) := by
  refine (directory.locate_ofSystem path).bind fun location => ?_
  split
  · exact .error rfl
  · split
    · exact .error rfl
    · split
      · exact .error rfl
      · split
        · exact .error rfl
        · exact .ok location

theorem moved_ofSystem (source target : Path) : OfSystem (directory.moved source target) := by
  refine (directory.locate_ofSystem source).bind fun origin => ?_
  split
  · exact .error rfl
  · exact (directory.destination_ofSystem target).bind fun location => .ok _

variable {directory}

/-- Writing to a path that can be handed to the system fails only with what the system
reports. -/
theorem writeOctets_ofSystem
    {path : Text}
    {content : List UInt8}
    {fault : FileFault}
    (spelled : ∃ given, Path.ofText path = .ok given)
    (failed : directory.writeOctets path content = .error fault) :
    fault.isOfSystem = true := by
  rcases spelled with ⟨given, spells⟩
  rw [writeOctets, spells] at failed
  split at failed
  next problem refused =>
    cases failed
    exact directory.writable_ofSystem given problem refused
  · cases failed

theorem replace_ofSystem
    {source target : Text}
    {fault : FileFault}
    (sourceSpelled : ∃ given, Path.ofText source = .ok given)
    (targetSpelled : ∃ given, Path.ofText target = .ok given)
    (failed : directory.replace source target = .error fault) :
    fault.isOfSystem = true := by
  rcases sourceSpelled with ⟨origin, spells⟩
  rcases targetSpelled with ⟨goal, reaches⟩
  simp only [replace, spells, reaches, bind, Except.bind] at failed
  cases outcome : directory.moved origin goal with
  | ok moved =>
    rw [outcome] at failed
    cases failed
  | error problem =>
    rw [outcome] at failed
    cases failed
    exact directory.moved_ofSystem origin goal problem outcome

/-- A publication at a path that can be handed to the system fails with what the system
reports, or because the document was not written to its end. -/
theorem publish_ofSystem
    {path : Text}
    {document : Json.Written}
    {system? : Option PublishFault}
    {left : Directory}
    {failure : Failure}
    (spelled : ∃ given, Path.ofText path = .ok given)
    (failed : directory.publish path document system? = (left, some failure)) :
    failure.ofSystem = true ∨ failure = .tooManyDigits ∧ document.whole = false := by
  have aside := exists_ofText_asidePath spelled
  rw [publish] at failed
  split at failed
  next written found unwritten =>
    cases failed
    simp only [writeAside] at unwritten
    split at unwritten
    next other refused =>
      cases unwritten
      exact .inl (writeOctets_ofSystem aside refused)
    · split at unwritten
      · cases unwritten
        exact .inl rfl
      · cases unwritten
        exact .inl rfl
      · cases part : document.whole with
        | false =>
          rw [part] at unwritten
          cases unwritten
          exact .inr ⟨rfl, rfl⟩
        | true =>
          rw [part] at unwritten
          cases unwritten
  next written _ =>
    rw [moveIntoPlace] at failed
    split at failed
    next other refused =>
      cases failed
      exact .inl (replace_ofSystem aside spelled refused)
    · split at failed
      · cases failed
        exact .inl rfl
      · cases failed

end Directory

end RunnerFleet
