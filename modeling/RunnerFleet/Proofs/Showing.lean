import RunnerFleet.Proofs.Octets
import RunnerFleet.Proofs.Rereading
import RunnerFleet.Status

/-!
# What a status file shows

The octets of a published document read, first as characters and then as JSON, as one object.  It
has a field for every pool, under the pool's name, and that is an object with the four figures of
the pool's status.
-/

namespace RunnerFleet

/-- What a file of statuses holds: their document, in octets. -/
def statusOctets (statuses : List (Text × PoolStatus)) : List UInt8 :=
  Text.Utf8.encode (Json.write (.object (statusDocument statuses))).text

/-- Octets show statuses: as a text of JSON they read as an object that tells, for every pool, how
many runners were live, when they were counted, the figures of the latest decision, and the
error. -/
def Shows (octets : List UInt8) (statuses : List (Text × PoolStatus)) : Prop :=
  ∃ content,
    Text.Utf8.decode octets = .ok content ∧
      ∃ levels, ∀ nesting, levels ≤ nesting →
        Json.read nesting (content.map .scalar) =
          .ok (.object (Table.ofPairs (statuses.map fun (name, status) =>
            (name.paired,
              .object
                [("active_runners", .int status.live),
                  ("last_check_time",
                    match status.checkedAt with
                    | some time => .text time
                    | none => .null),
                  ("last_decision",
                    match status.decision with
                    | some figures =>
                      .object
                        [("active_runners", .int figures.active),
                          ("available_slots", .int figures.slots),
                          ("queued_jobs", .int figures.queued),
                          ("candidates", .int figures.candidates),
                          ("spawned", .int figures.started),
                          ("spawned_job_ids", .list (figures.startedIds.map Value.reread))]
                    | none => .object []),
                  ("last_error",
                    match status.error with
                    | some message => .text message.paired
                    | none => .null)]))))

/-! ## What a status reads back as -/

/-- Without surrogates nothing is joined. -/
theorem Text.paired_ofString (content : String) : (ofString content).paired = content := by
  have scalars (chars : List Char) : paired (chars.map .scalar) = chars.map .scalar := by
    induction chars with
    | nil => rfl
    | cons first rest ih =>
      cases rest with
      | nil => rfl
      | cons second more =>
        exact congrArg (CodePoint.scalar first :: ·) ih
  exact scalars content.toList

namespace Value

theorem rereadItems_eq_map (items : List Value) : rereadItems items = items.map reread := by
  induction items with
  | nil => rfl
  | cons item rest ih => rw [rereadItems, ih, List.map_cons]

theorem rereadFields_eq_map (fields : List (Text × Value)) :
    rereadFields fields = fields.map fun field => (field.1.paired, field.2.reread) := by
  induction fields with
  | nil => rfl
  | cons field rest ih =>
    rcases field with ⟨name, value⟩
    rw [rereadFields, ih, List.map_cons]

theorem reread_optionalText (content : Option Text) :
    (PoolStatus.optionalText content).reread =
      match content with
      | some content => .text content.paired
      | none => .null := by
  cases content with
  | none => rfl
  | some content => rfl

end Value

theorem Summary.reread_fields (summary : Summary) :
    (Value.object summary.fields).reread =
      .object
        [("active_runners", .int summary.active),
          ("available_slots", .int summary.slots),
          ("queued_jobs", .int summary.queued),
          ("candidates", .int summary.candidates),
          ("spawned", .int summary.started),
          ("spawned_job_ids", .list (summary.startedIds.map Value.reread))] := by
  rw [Value.reread, Summary.fields]
  simp only [Value.rereadFields, Text.paired_ofString, Value.reread, Value.rereadItems_eq_map]
  rw [Table.ofPairs_of_nodup]
  simp only [List.map_cons, List.map_nil]
  decide

theorem PoolStatus.reread_fields (status : PoolStatus) :
    (Value.object status.fields).reread =
      .object
        [("active_runners", .int status.live),
          ("last_check_time", (optionalText (status.checkedAt.map Text.ofString)).reread),
          ("last_decision", (Value.object status.decisionFields).reread),
          ("last_error", (optionalText status.error).reread)] := by
  rw [Value.reread, fields]
  simp only [Value.rereadFields, Text.paired_ofString, Value.reread.eq_3]
  rw [Table.ofPairs_of_nodup]
  simp only [List.map_cons, List.map_nil]
  decide

/-- A document of statuses that is written to its end shows them. -/
theorem shows_statuses
    {statuses : List (Text × PoolStatus)}
    (whole : (Json.write (.object (statusDocument statuses))).whole = true) :
    Shows (statusOctets statuses) statuses := by
  refine ⟨_, Text.Utf8.decode_encode _, _,
    fun nesting deep => (Json.read_write whole deep).trans ?_⟩
  rw [Value.reread, Value.rereadFields_eq_map, statusDocument, List.map_map]
  congr 3
  refine List.map_congr_left ?_
  rintro ⟨name, status⟩ _
  have decision :
      (Value.object status.decisionFields).reread =
        match status.decision with
        | some figures =>
          .object
            [("active_runners", .int figures.active),
              ("available_slots", .int figures.slots),
              ("queued_jobs", .int figures.queued),
              ("candidates", .int figures.candidates),
              ("spawned", .int figures.started),
              ("spawned_job_ids", .list (figures.startedIds.map Value.reread))]
        | none => .object [] := by
    rw [PoolStatus.decisionFields]
    cases status.decision with
    | none => rfl
    | some figures => exact figures.reread_fields
  have time :
      (PoolStatus.optionalText (status.checkedAt.map Text.ofString)).reread =
        match status.checkedAt with
        | some time => .text time
        | none => .null := by
    cases status.checkedAt with
    | none => rfl
    | some time => exact congrArg Value.text (Text.paired_ofString time)
  dsimp only [Function.comp]
  rw [status.reread_fields, decision, time, Value.reread_optionalText]

end RunnerFleet
