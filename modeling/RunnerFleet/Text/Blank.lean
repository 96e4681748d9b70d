/-!
# Blank characters and trimming

Two sets of blank characters occur in the service's inputs: the ones that are
trimmed off a label, and the slightly smaller set that may surround a number.
Trimming and splitting work on lists of any items, so that statements about them
are statements about lists.
-/

namespace RunnerFleet.Text

/-- The characters that may surround a number. -/
def isNumberBlank (char : Char) : Bool :=
  let code := char.toNat
  (9 ≤ code && code ≤ 13) || code == 0x20 || code == 0x85 || code == 0xA0 ||
    code == 0x1680 || (0x2000 ≤ code && code ≤ 0x200A) || code == 0x2028 ||
    code == 0x2029 || code == 0x202F || code == 0x205F || code == 0x3000

/-- The characters that are trimmed off a label: the four information
separators of ASCII count here as well. -/
def isBlank (char : Char) : Bool :=
  isNumberBlank char || (28 ≤ char.toNat && char.toNat ≤ 31)

/-- Remove the leading and the trailing items of a class. -/
def trimWhere
    {Item : Type}
    (blank : Item → Bool)
    (items : List Item) : List Item :=
  ((items.dropWhile blank).reverse.dropWhile blank).reverse

/-- The stretches of a list between the occurrences of a separator; there is
always one more stretch than there are separators. -/
def stretches
    {Item : Type}
    [DecidableEq Item]
    (separator : Item) : List Item → List (List Item)
  | [] => [[]]
  | item :: rest =>
    if item = separator then
      [] :: stretches separator rest
    else
      match stretches separator rest with
      | [] => [[item]]
      | first :: others => (item :: first) :: others

end RunnerFleet.Text
