import RunnerFleet.Text.Blank
import RunnerFleet.Value

/-!
# Labels

A job names the labels it requires, and a pool offers labels.  An offered label
may carry a schema after its name, `name:schema`, which says how a runner
provides it; a job that requires the plain name is content with any schema.

The module gives the name of a label, the reading of a comma separated list,
the merge of declared with default labels, and the two ways to match.
-/

namespace RunnerFleet

namespace Label

/-- The part of a label before its schema. -/
def name (label : Text) : Text :=
  label.takeWhile (· != .scalar ':')

/-- The labels a runner offers where none are configured. -/
def standard : List Text :=
  ["ubuntu-latest:docker://gitea/runner-images:ubuntu-latest",
    "ubuntu-24.04:docker://gitea/runner-images:ubuntu-24.04",
    "ubuntu-22.04:docker://gitea/runner-images:ubuntu-22.04"]

/-- The labels of a comma separated text, trimmed; blank ones are dropped. -/
def parse (text : Text) : List Text :=
  ((Text.stretches (.scalar ',') text).map
    (Text.trimWhere (CodePoint.isIn Text.isBlank))).filter (!·.isEmpty)

/-- Add a label at the end unless it is there already. -/
def adjoin (labels : List Text) (label : Text) : List Text :=
  if labels.contains label then labels else labels ++ [label]

/-- The labels a pool offers: the declared ones, then the defaults whose name no
declared label has.  Repeated labels are kept once, where they first occur. -/
def merge (declared defaults : List Text) : List Text :=
  let own := declared.foldl adjoin []
  let names := own.map name
  (defaults.filter fun label => !names.contains (name label)).foldl adjoin own

end Label

/-- How a required label is compared with an offered one. -/
inductive Matcher where
  /-- The two labels are the same text. -/
  | exact
  /-- The two labels are the same, or the required one is the offered one's name. -/
  | schema
  deriving DecidableEq, Repr

namespace Matcher

/-- The word for a matcher in settings. -/
def name : Matcher → String
  | .exact => "exact"
  | .schema => "schema"

/-- The words for the matchers, in alphabetical order. -/
def names : List String :=
  [name .exact, name .schema]

/-- The matcher of a word. -/
def ofName? (word : Text) : Option Matcher :=
  [exact, schema].find? fun matcher => Text.ofString matcher.name == word

/-- Whether one offered label provides a required one.  What a job requires may
be any value; only a text is ever provided. -/
def provides (matcher : Matcher) (required : Value) (offered : Text) : Bool :=
  match required with
  | .text label =>
    match matcher with
    | .exact => label == offered
    | .schema => label == offered || Label.name offered == label
  | _ => false

/-- Whether every required label is provided by some offered one; a job that
requires nothing is always accepted. -/
def accepts (matcher : Matcher) (required : List Value) (offered : List Text) : Bool :=
  required.all fun label => offered.any (matcher.provides label)

end Matcher

end RunnerFleet
