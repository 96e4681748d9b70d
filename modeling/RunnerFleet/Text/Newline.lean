/-!
# Line ends

A file read as text has one kind of line end: a carriage return, with or
without a line feed after it, is read as a line feed.
-/

namespace RunnerFleet.Text

/-- Replace every kind of line end by a line feed. -/
def unifyNewlines : List Char → List Char
  | [] => []
  | '\r' :: '\n' :: rest => '\n' :: unifyNewlines rest
  | '\r' :: rest => '\n' :: unifyNewlines rest
  | char :: rest => char :: unifyNewlines rest

example : unifyNewlines ['a', '\r', '\n', '\r', 'b'] = ['a', '\n', '\n', 'b'] := by decide

end RunnerFleet.Text
