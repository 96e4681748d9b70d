import RunnerFleet.Value

/-!
# Equality of values

Whether two values are the same can be decided.  Unlike the keys of values, values are only
the same if they are of one kind, and reals only if they have the same bits.
-/

namespace RunnerFleet.Value

mutual

/-- Whether two values are the same. -/
def same : Value → Value → Bool
  | .null, .null => true
  | .bool left, .bool right => left == right
  | .int left, .int right => left == right
  | .real left, .real right => decide (left = right)
  | .text left, .text right => left == right
  | .list left, .list right => sameItems left right
  | .object left, .object right => sameFields left right
  | _, _ => false

/-- Whether two lists of values are the same. -/
def sameItems : List Value → List Value → Bool
  | [], [] => true
  | left :: lefts, right :: rights => same left right && sameItems lefts rights
  | _, _ => false

/-- Whether two lists of fields are the same. -/
def sameFields : List (Text × Value) → List (Text × Value) → Bool
  | [], [] => true
  | (leftName, left) :: lefts, (rightName, right) :: rights =>
    leftName == rightName && same left right && sameFields lefts rights
  | _, _ => false

end

mutual

theorem same_iff : ∀ left right : Value, same left right = true ↔ left = right
  | .null, right => by cases right <;> simp [same]
  | .bool left, right => by cases right <;> simp [same]
  | .int left, right => by cases right <;> simp [same]
  | .real left, right => by cases right <;> simp [same]
  | .text left, right => by cases right <;> simp [same]
  | .list left, right => by cases right <;> simp [same, sameItems_iff left]
  | .object left, right => by cases right <;> simp [same, sameFields_iff left]

theorem sameItems_iff : ∀ left right : List Value, sameItems left right = true ↔ left = right
  | [], right => by cases right <;> simp [sameItems]
  | left :: lefts, right => by
    cases right <;> simp [sameItems, same_iff left, sameItems_iff lefts]

theorem sameFields_iff :
    ∀ left right : List (Text × Value), sameFields left right = true ↔ left = right
  | [], right => by cases right <;> simp [sameFields]
  | (leftName, left) :: lefts, right => by
    cases right with
    | nil => simp [sameFields]
    | cons pair rights =>
      obtain ⟨rightName, right⟩ := pair
      simp [sameFields, same_iff left, sameFields_iff lefts, and_assoc]

end

instance : DecidableEq Value := fun left right =>
  decidable_of_iff (same left right = true) (same_iff left right)

end RunnerFleet.Value
