import Mathlib.Data.List.Basic
import RunnerFleet.Proofs.Publishing
import RunnerFleet.Proofs.Splitting

/-!
# The file aside

A publication first writes a file aside, whose path goes on from the path itself by a few more
octets without a slash.  So it leads through the same folders, its last name is a longer one,
and it never leads to where the path does.  Hence writing the file aside leaves alone what
stands at the path.
-/

namespace RunnerFleet

/-! ## Where the file aside lies -/

namespace Path

/-- The octets by which the path of the file aside goes on. -/
def asideOctets : List UInt8 :=
  [0x2E, 0x74, 0x6D, 0x70]

theorem octets_ofText {text : Text} {path : Path} (spells : ofText text = .ok path) :
    path.octets = text.flatMap Text.Utf8.pointOctets := by
  rw [ofText, Text.Utf8.nameOctets] at spells
  cases fault : Text.Utf8.encodingFault? text with
  | some found =>
    rw [fault] at spells
    cases spells
  | none =>
    rw [fault] at spells
    dsimp only at spells
    split at spells
    · cases spells
    · cases spells
      rfl

/-- The path of the file aside goes on from the path itself. -/
theorem of_asidePath {text : Text} {aside : Path} (spells : ofText (asidePath text) = .ok aside) :
    ∃ given, ofText text = .ok given ∧ aside.octets = given.octets ++ asideOctets := by
  have points := exists_ofText_iff.mp ⟨aside, spells⟩
  rw [asidePath, List.forall_mem_append] at points
  rcases exists_ofText_iff.mpr points.1 with ⟨given, given_spells⟩
  have suffix : (".tmp" : Text).flatMap Text.Utf8.pointOctets = asideOctets := by decide +kernel
  refine ⟨given, given_spells, ?_⟩
  rw [octets_ofText spells, octets_ofText given_spells, asidePath, List.flatMap_append, suffix]

/-- The path of the file aside leads through the same folders, and its last name is longer. -/
theorem components_aside
    {given aside : Path}
    (longer : aside.octets = given.octets ++ asideOctets) :
    ∃ names last,
      given.components = names ++ [last].filter (!·.isEmpty) ∧
        aside.components = names ++ [last ++ asideOctets] := by
  rcases Text.stretches_append Location.slash given.octets with ⟨before, last, whole, extended⟩
  refine ⟨before.filter (!·.isEmpty), last, ?_, ?_⟩
  · rw [components, whole, List.filter_append]
  · rw [components, longer, extended asideOctets (by decide), List.filter_append]
    congr 1
    cases last <;> rfl

end Path

/-- Nothing is known to stand where a file aside may be written. -/
theorem Location.standardNode?_aside (folder : Location) (last : List UInt8) :
    Location.standardNode? (folder ++ [last ++ Path.asideOctets]) = none := by
  have differs
      (before : Location)
      {name : List UInt8}
      (known : ¬ Path.asideOctets <:+ name) :
      folder ++ [last ++ Path.asideOctets] ≠ before ++ [name] := by
    intro same
    have equal : last ++ Path.asideOctets = name :=
      List.singleton_injective (List.append_inj' same rfl).2
    exact known ⟨last, equal⟩
  have root : folder ++ [last ++ Path.asideOctets] ≠ Location.root :=
    differs [] (by decide)
  have below : Location.isAbove (folder ++ [last ++ Path.asideOctets]) = false := by
    rw [isAbove, List.all_append, List.all_cons, List.all_nil, Bool.and_true]
    have up : (last ++ Path.asideOctets == up) = false := by
      rw [beq_eq_false_iff_ne]
      intro same
      have suffix : ¬ Path.asideOctets <:+ up := by decide
      exact suffix ⟨last, same⟩
    rw [up, Bool.and_false]
  have device : folder ++ [last ++ Path.asideOctets] ≠ nullDevice :=
    differs [rootName, Text.Utf8.encode "dev"] (by decide +kernel)
  have unlisted
      (first name : List UInt8)
      (same : folder ++ [last ++ Path.asideOctets] = [first, name]) :
      standardFolders.contains name = false := by
    rw [Bool.eq_false_iff]
    intro listed
    have none : ∀ name ∈ standardFolders, ¬ Path.asideOctets <:+ name := by decide +kernel
    exact differs [first] (none name (by simpa using listed)) same
  clear differs
  generalize folder ++ [last ++ Path.asideOctets] = location at root below device unlisted
  unfold standardNode?
  rw [if_neg (by simp [root, below]), if_neg device]
  split
  next first name =>
    rw [unlisted first name rfl, Bool.and_false, if_neg Bool.false_ne_true]
  · rfl

namespace Directory

variable {directory : Directory}

/-- A walk that succeeds passes through a folder before its last name, and from there any other
walk through the same names goes on. -/
theorem walk_enters
    {current origin : Location}
    {names : List (List UInt8)}
    {name : List UInt8}
    (leads : directory.walk current (names ++ [name]) = .ok origin) :
    ∃ folder,
      directory.walk current names = .ok folder ∧
        ∀ rest, rest ≠ [] →
          directory.walk current (names ++ rest) = directory.walk folder rest := by
  induction names generalizing current with
  | nil => exact ⟨current, rfl, fun _ _ => rfl⟩
  | cons first others ih =>
    rw [List.cons_append, walk] at leads
    split at leads
    next here =>
      rcases ih leads with ⟨folder, reached, onward⟩
      refine ⟨folder, by rw [walk, if_pos here, reached], fun rest some => ?_⟩
      rw [List.cons_append, walk, if_pos here, onward rest some]
    next named =>
      split at leads
      next up =>
        rcases ih leads with ⟨folder, reached, onward⟩
        refine ⟨folder, by rw [walk, if_neg named, if_pos up, reached], fun rest some => ?_⟩
        rw [List.cons_append, walk, if_neg named, if_pos up, onward rest some]
      next down =>
        split at leads
        · cases leads
        next short =>
          have more (rest : List (List UInt8)) (some : rest ≠ []) :
              (others ++ rest).isEmpty = false := by
            simp [some]
          dsimp only at leads
          rw [more [name] (List.cons_ne_nil _ _), if_neg Bool.false_ne_true] at leads
          split at leads
          · cases leads
          · cases leads
          next stands =>
            rcases ih leads with ⟨folder, reached, onward⟩
            refine ⟨folder, ?_, fun rest some => ?_⟩
            · rw [walk, if_neg named, if_neg down, if_neg short]
              dsimp only
              split
              next last =>
                rw [List.isEmpty_iff.mp last] at reached
                exact reached
              · rw [stands]
                exact reached
            · rw [List.cons_append, walk, if_neg named, if_neg down, if_neg short]
              dsimp only
              rw [more rest some, if_neg Bool.false_ne_true, stands]
              exact onward rest some

theorem walk_single (folder : Location) (name : List UInt8) :
    directory.walk folder [name] =
      if name = Location.here then .ok folder
      else if name = Location.up then .ok folder.parent
      else if Path.nameLimit < name.length then .error .nameTooLong
      else .ok (folder ++ [name]) := by
  rw [walk, walk, walk, List.isEmpty_nil, if_pos rfl]

theorem parent_ne {folder : Location} {name : List UInt8} (named : name ≠ Location.up) :
    folder.parent ≠ folder ++ [name] := by
  rw [Location.parent]
  split
  next top =>
    rw [top]
    exact fun same => absurd (congrArg List.length same) (by simp [Location.root])
  next below =>
    split
    next above =>
      intro same
      exact named (List.singleton_injective (List.append_cancel_left same)).symm
    next within =>
      intro same
      have shorter := congrArg List.length same
      rw [List.length_dropLast, List.length_append, List.length_singleton] at shorter
      omega

/-- If the path of the file aside leads somewhere, so does the path itself, unless it is empty,
and somewhere else. -/
theorem locate_aside
    {given aside : Path}
    (longer : aside.octets = given.octets ++ Path.asideOctets)
    {origin : Location}
    (leads : directory.locate aside = .ok origin) :
    (∃ folder last, origin = folder ++ [last ++ Path.asideOctets]) ∧
      (given.octets ≠ [] → ∃ target, directory.locate given = .ok target ∧ target ≠ origin) := by
  rcases Path.components_aside longer with ⟨names, last, own, extended⟩
  have here : last ++ Path.asideOctets ≠ Location.here := by
    intro same
    have longer := congrArg List.length same
    simp [Path.asideOctets, Location.here] at longer
  have up : last ++ Path.asideOctets ≠ Location.up := by
    intro same
    have longer := congrArg List.length same
    simp [Path.asideOctets, Location.up] at longer
  rw [locate] at leads
  split at leads
  · cases leads
  · split at leads
    · cases leads
    next short =>
      rw [extended] at leads
      rcases walk_enters leads with ⟨folder, reached, onward⟩
      rw [onward _ (List.cons_ne_nil _ _), walk_single, if_neg here, if_neg up] at leads
      split at leads
      · cases leads
      next fits =>
        cases leads
        refine ⟨⟨folder, last, rfl⟩, fun filled => ?_⟩
        have lengths := congrArg List.length longer
        rw [List.length_append] at lengths
        have start : given.isAbsolute = aside.isAbsolute := by
          rw [Path.isAbsolute, Path.isAbsolute, longer, List.head?_append_of_ne_nil _ filled]
        rw [locate, if_neg (by simpa using filled), if_neg (by omega), own, start]
        by_cases slash : last = []
        · have none : [last].filter (!·.isEmpty) = [] := by simp [slash]
          rw [none, List.append_nil]
          exact ⟨folder, reached, fun same => absurd (congrArg List.length same) (by simp)⟩
        · have one : [last].filter (!·.isEmpty) = [last] := by simp [slash]
          rw [one, onward _ (List.cons_ne_nil _ _), walk_single]
          split
          · exact ⟨folder, rfl, fun same => absurd (congrArg List.length same) (by simp)⟩
          · split
            · exact ⟨folder.parent, rfl, parent_ne up⟩
            · rw [List.length_append] at fits
              rw [if_neg (by omega)]
              refine ⟨folder ++ [last], rfl, fun same => ?_⟩
              have equal := List.singleton_injective (List.append_cancel_left same)
              simp [Path.asideOctets] at equal

/-! ## What stands at a path -/

@[simp]
theorem node?_remove_self (directory : Directory) (location : Location) :
    (directory.remove location).node? location = location.standardNode? := by
  rw [node?, remove, Table.lookup_drop_self, Option.none_or]

/-- The location that the path a text spells leads to. -/
def locationOf (directory : Directory) (path : Text) : Except FileProblem Location :=
  Path.ofText path >>= directory.locate

/-- What stands at the path that a text spells. -/
def nodeAt (directory : Directory) (path : Text) : Except FileProblem (Option Node) :=
  (directory.locationOf path).map directory.node?

theorem nodeAt_of_locationOf
    {path : Text}
    {location : Location}
    (leads : directory.locationOf path = .ok location) :
    directory.nodeAt path = .ok (directory.node? location) := by
  rw [nodeAt, leads]
  rfl

theorem KeepsFolders.locationOf
    {later : Directory}
    (keeps : directory.KeepsFolders later)
    {path : Text}
    {location : Location}
    (leads : directory.locationOf path = .ok location) :
    later.locationOf path = .ok location := by
  rcases bind_eq_ok_iff.mp leads with ⟨spelled, spells, reached⟩
  exact bind_eq_ok_iff.mpr ⟨spelled, spells, keeps.locate reached⟩

/-- The file aside may be written at a location, where there is no folder. -/
structure Aside (directory : Directory) (path : Text) (origin : Location) : Prop where
  leads : directory.locationOf (asidePath path) = .ok origin
  free : directory.node? origin ≠ some .folder

namespace Aside

variable {path : Text} {origin : Location} (aside : directory.Aside path origin)

include aside

/-- Only where a path can be handed to the system is there a file aside. -/
theorem spelled : ∃ given, Path.ofText path = .ok given := by
  rcases bind_eq_ok_iff.mp aside.leads with ⟨_, spells, _⟩
  rcases Path.of_asidePath spells with ⟨given, own, _⟩
  exact ⟨given, own⟩

theorem standardNode? : origin.standardNode? = none := by
  rcases bind_eq_ok_iff.mp aside.leads with ⟨_, spells, reached⟩
  rcases Path.of_asidePath spells with ⟨given, _, longer⟩
  rcases (locate_aside longer reached).1 with ⟨folder, last, rfl⟩
  exact Location.standardNode?_aside folder last

/-- The path leads somewhere else, or it leads nowhere in any directory. -/
theorem apart :
    (∃ target, directory.locationOf path = .ok target ∧ target ≠ origin) ∨
      ∀ other : Directory, other.locationOf path = .error .notFound := by
  rcases bind_eq_ok_iff.mp aside.leads with ⟨_, spells, reached⟩
  rcases Path.of_asidePath spells with ⟨given, own, longer⟩
  by_cases empty : given.octets = []
  · refine .inr fun other => ?_
    have nowhere : other.locate given = .error .notFound := by
      rw [locate, if_pos (List.isEmpty_iff.mpr empty)]
    rw [locationOf, own]
    exact nowhere
  · rcases (locate_aside longer reached).2 empty with ⟨target, leads, differs⟩
    exact .inl ⟨target, bind_eq_ok_iff.mpr ⟨given, own, leads⟩, differs⟩

variable (content : List UInt8)

theorem keepsFolders : directory.KeepsFolders (directory.put origin (.file content)) :=
  keepsFolders_put aside.free

theorem again : (directory.put origin (.file content)).locationOf (asidePath path) = .ok origin :=
  (aside.keepsFolders content).locationOf aside.leads

/-- What is written aside stands at the path of the file aside. -/
theorem nodeAt_aside :
    (directory.put origin (.file content)).nodeAt (asidePath path) =
      .ok (some (.file content)) := by
  rw [nodeAt_of_locationOf (aside.again content), node?_put_self]

/-- What is written aside changes nothing at the path itself. -/
theorem nodeAt_put :
    (directory.put origin (.file content)).nodeAt path = directory.nodeAt path := by
  rcases aside.apart with ⟨target, leads, differs⟩ | nowhere
  · rw [nodeAt_of_locationOf ((aside.keepsFolders content).locationOf leads),
      nodeAt_of_locationOf leads, node?_put_of_ne _ differs]
  · rw [nodeAt, nodeAt, nowhere, nowhere]
    rfl

end Aside

/-! ## The two operations of a publication -/

/-- Writing aside fails and changes nothing, or fails with a part of a file aside, or leaves the
whole document there. -/
theorem writeAside_cases
    (directory : Directory)
    (path : Text)
    (document : Json.Written)
    (system? : Option PublishFault) :
    (∃ failure, directory.writeAside path document system? = (directory, some failure)) ∨
      ∃ origin,
        directory.Aside path origin ∧
          ((∃ left failure,
              directory.writeAside path document system? =
                (directory.put origin (.file left), some failure)) ∨
            document.whole = true ∧
              directory.writeAside path document system? =
                (directory.put origin (.file (Text.Utf8.encode document.text)), none)) := by
  simp only [writeAside]
  split
  next fault _ => exact .inl ⟨.file fault, rfl⟩
  next written allowed =>
    rcases of_writeOctets allowed with ⟨spelled, origin, spells, leads, free, rfl⟩
    have aside : directory.Aside path origin :=
      ⟨bind_eq_ok_iff.mpr ⟨spelled, spells, leads⟩, free⟩
    split
    · exact .inl ⟨_, rfl⟩
    · exact .inr ⟨origin, aside, .inl ⟨_, _, rfl⟩⟩
    next unopened unwritten =>
      refine .inr ⟨origin, aside, ?_⟩
      cases whole : document.whole with
      | false => exact .inl ⟨_, _, rfl⟩
      | true =>
        refine .inr ⟨rfl, ?_⟩
        split
        · exact absurd rfl (unwritten _ _ _)
        · rfl

/-- A move fails and changes nothing, or it takes the file aside away and puts it at the
path. -/
theorem moveIntoPlace_cases
    (directory : Directory)
    (path : Text)
    (system? : Option PublishFault) :
    (∃ failure, directory.moveIntoPlace path system? = (directory, some failure)) ∨
      ∃ origin node target,
        directory.locationOf (asidePath path) = .ok origin ∧
          directory.node? origin = some node ∧
            directory.locationOf path = .ok target ∧
              directory.node? target ≠ some .folder ∧
                directory.moveIntoPlace path system? =
                  ((directory.remove origin).put target node, none) := by
  rw [moveIntoPlace]
  split
  next fault _ => exact .inl ⟨.file fault, rfl⟩
  next moved allowed =>
    split
    · exact .inl ⟨_, rfl⟩
    · refine .inr ?_
      rcases of_replace allowed with
        ⟨given, goal, origin, node, target, spells, reached, leads, stands, permitted, rfl⟩
      rcases of_destination permitted with ⟨goes, free, _⟩
      exact ⟨origin, node, target, bind_eq_ok_iff.mpr ⟨given, spells, leads⟩, stands,
        bind_eq_ok_iff.mpr ⟨goal, reached, goes⟩, free, rfl⟩

end Directory

end RunnerFleet
